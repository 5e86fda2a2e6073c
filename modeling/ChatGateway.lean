import ChatGateway.Main
import ChatGateway.Proofs.Board.Selection
import ChatGateway.Proofs.Chat.Placeholder
import ChatGateway.Proofs.Chat.ReplyContent
import ChatGateway.Proofs.Chat.Silence
import ChatGateway.Proofs.Chat.Submission
import ChatGateway.Proofs.Chat.FailedLoad
import ChatGateway.Proofs.Chat.Notices
import ChatGateway.Proofs.Gateway.Repeated
import ChatGateway.Proofs.Chat.Timetable
import ChatGateway.Proofs.Chat.Tokens
import ChatGateway.Proofs.Sse.Framing
import ChatGateway.Proofs.Sse.LastLine
import ChatGateway.Proofs.Sse.AtOnce
import ChatGateway.Settings.Disk
import ChatGateway.Voice
import ChatGateway.Proofs.Board.Live
import ChatGateway.Proofs.Board.Answered
import ChatGateway.Proofs.Board.Timetable
import ChatGateway.Proofs.Board.LoadOrder
import ChatGateway.Proofs.Board.Overtaken
import ChatGateway.Proofs.Board.RefreshLabel
import ChatGateway.Proofs.Board.Announced
import ChatGateway.Proofs.Voice.Linear
import ChatGateway.Proofs.Chat.Remembered
import ChatGateway.Proofs.Chat.Service
import ChatGateway.Proofs.CommandLine.Printed
import ChatGateway.Proofs.Board.Reselection
import ChatGateway.Proofs.Chat.Folding
import ChatGateway.Proofs.Gateway.Replay
import ChatGateway.Proofs.Wire.Dispatch
import ChatGateway.Proofs.Sse.Cancelled
import ChatGateway.Proofs.Summary
import ChatGateway.Proofs.Settings.Update
import ChatGateway.Proofs.Gateway.Identifiers
import ChatGateway.Proofs.Sse.BufferUse
import ChatGateway.Proofs.Token
