import AndroidMessenger.Chat.Agreement
import AndroidMessenger.Chat.Authorship
import AndroidMessenger.Chat.Requests
import AndroidMessenger.Chat.Rooms
import AndroidMessenger.Chat.Service
import AndroidMessenger.Chat.Timestamps
import AndroidMessenger.Client.DateTimeFormat
import AndroidMessenger.Client.LoggedIn
import AndroidMessenger.Client.ReaderThread
import AndroidMessenger.Client.Recovery
import AndroidMessenger.Client.Wire
import AndroidMessenger.Library.Decimal
import AndroidMessenger.Library.Lines
import AndroidMessenger.Library.LowestFree
import AndroidMessenger.Msg.Acceptance
import AndroidMessenger.Msg.Calendar
import AndroidMessenger.Msg.Classification
import AndroidMessenger.Msg.Cleaning
import AndroidMessenger.Msg.RoundTrip
import AndroidMessenger.Msg.Timestamps
import AndroidMessenger.Networking.Descriptor
import AndroidMessenger.Networking.FdSets
import AndroidMessenger.Networking.Kill
import AndroidMessenger.Networking.Overloads
import AndroidMessenger.Networking.Stdin
import AndroidMessenger.Networking.Timeout
import AndroidMessenger.Server.Capacity
import AndroidMessenger.Server.Containers
import AndroidMessenger.Server.Delivery
import AndroidMessenger.Server.Descriptors
import AndroidMessenger.Server.Exhaustion
import AndroidMessenger.Server.Exit
import AndroidMessenger.Server.Failure
import AndroidMessenger.Server.Malformed
import AndroidMessenger.Server.Privacy
import AndroidMessenger.Server.Segments
import AndroidMessenger.Server.Session
import AndroidMessenger.Server.UserNames
