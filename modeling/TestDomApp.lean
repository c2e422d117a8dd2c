import TestDomApp.Transition.Run
import TestDomApp.BoundedFifo.Basic
import TestDomApp.CyclicBuffer.View
import TestDomApp.Bytes.Region
import TestDomApp.Message.Basic
import TestDomApp.Message.Buffers
import TestDomApp.Message.Queue
import TestDomApp.Message.SendRecv
import TestDomApp.Message.Frame
import TestDomApp.Message.Equiv.SendRecv
import TestDomApp.Message.Equiv.RoundTrip
import TestDomApp.Message.Equiv.Queue
import TestDomApp.Message.Equiv.Buffers
import TestDomApp.DomappCommon.Api
import TestDomApp.DomappCommon.Equiv.FormatLong
import TestDomApp.MsgHandler.Basic
import TestDomApp.MsgHandler.Equiv.Outcome
import TestDomApp.MsgHandler.Equiv.LastError
import TestDomApp.MsgHandler.Equiv.Stats
import TestDomApp.DomApp.Main
import TestDomApp.DomApp.Equiv.RecvMsg
import TestDomApp.DomApp.Equiv.Loop
import TestDomApp.DomApp.Equiv.ReplyLength
import TestDomApp.DomApp.Equiv.Wire
import TestDomApp.Message.Equiv.Delivery
import TestDomApp.Message.Equiv.Parse
import TestDomApp.MsgHandler.Answer
import TestDomApp.MsgHandler.Equiv.Answer
import TestDomApp.MsgHandler.Equiv.Formats
import TestDomApp.MsgHandler.Equiv.Queries
import TestDomApp.MsgHandler.Equiv.Isolation
import TestDomApp.DomApp.EchoClient
import TestDomApp.DomApp.Equiv.EchoClient
import TestDomApp.Message.Equiv.Transport
import TestDomApp.Message.Equiv.WrongRelease
import TestDomApp.MsgHandler.Equiv.Matching
import TestDomApp.DomApp.Equiv.EchoCheck
import TestDomApp.Transition.Machine
import TestDomApp.MsgHandler.Server
import TestDomApp.MsgHandler.Equiv.Server
import TestDomApp.Message.Stream
import TestDomApp.DomApp.Session
import TestDomApp.DomApp.Equiv.Session
import TestDomApp.Bytes.Codec
import TestDomApp.MsgHandler.Equiv.Observe
import TestDomApp.Message.Equiv.History
import TestDomApp.Message.QueueList
import TestDomApp.Message.Equiv.QueueList
import TestDomApp.Message.Equiv.Device
import TestDomApp.DomApp.Equiv.EchoMain
import TestDomApp.DomApp.Equiv.Defined
import TestDomApp.DomApp.Equiv.EchoServed
import TestDomApp.DomApp.Equiv.Writes
