import Standby.Fault
import Standby.Replication.Session

/-!
# Feeds

A feed is a queue of commands with one consumer, which takes the items in order. The first item
that is refused ends the feed, and so does the first request to close it; either way the
consumer is closed once. A consumer that breaks down ends the feed without being closed.
-/
namespace Standby

/-- What a consumer answers to an item. -/
inductive Intake where
  /-- The item was taken. -/
  | admitted (admission : Admission)
  /-- The item was refused. -/
  | refused (fault : Fault)
  /-- The consumer broke down. -/
  | brokeDown
  deriving DecidableEq

/-- A taker of stream items. -/
structure Consumer (State : Type) where
  /-- Take an item. -/
  consume : StreamItem → State → Intake × State
  /-- The stream is over. -/
  close : State → Except Fault Unit × State

/-- A command in the queue of a feed. -/
inductive FeedCommand where
  /-- Take an item. -/
  | item (item : StreamItem)
  /-- Take nothing after what was queued before. -/
  | close
  deriving DecidableEq

/-- How a feed ended. -/
inductive FeedEnd where
  /-- The consumer was closed, and an item may have been refused before. -/
  | closed (result : Except Fault Unit)
  /-- The consumer broke down. -/
  | brokeDown

/-- The result that whoever waits for a feed gets. -/
def FeedEnd.result : FeedEnd → Except Fault Unit
  | closed result => result
  | brokeDown => .error (.replication .sessionFailed)

namespace Consumer

variable {State : Type}

/-- Close a consumer at the end of its feed. -/
def finish (consumer : Consumer State) (state : State) : FeedEnd × State :=
  let (result, state) := consumer.close state
  (.closed result, state)

/-- Take commands until the feed ends; a queue that runs dry is never filled again. After a
refused item the result of closing does not count. -/
def run (consumer : Consumer State) : List FeedCommand → State → FeedEnd × State
  | [], state => consumer.finish state
  | .close :: _, state => consumer.finish state
  | .item item :: rest, state =>
    match consumer.consume item state with
    | (.admitted _, state) => consumer.run rest state
    | (.refused fault, state) => (.closed (.error fault), (consumer.close state).2)
    | (.brokeDown, state) => (.brokeDown, state)

end Consumer

/-- A consumer with the queue of its commands. -/
structure Feed (State : Type) where
  /-- What the consumer keeps. -/
  state : State
  /-- The commands that wait, the oldest first. -/
  queue : Array FeedCommand
  /-- How the feed ended. -/
  ended : Option FeedEnd

namespace Feed

variable {State : Type}

/-- The feed of a consumer that nothing was sent to. -/
def start (state : State) : Feed State := ⟨state, #[], none⟩

/-- Send a command; one that is sent to a feed that has ended is lost. -/
def send (feed : Feed State) (command : FeedCommand) : Except ReplicationFault Unit × Feed State :=
  match feed.ended with
  | some _ => (.error .sessionClosed, feed)
  | none => (.ok (), { feed with queue := feed.queue.push command })

/-- Send an item. -/
def submit (feed : Feed State) (item : StreamItem) : Except ReplicationFault Unit × Feed State :=
  feed.send (.item item)

/-- Nothing more is sent: let the consumer take what waits, and end. -/
def join (consumer : Consumer State) (feed : Feed State) : Except Fault Unit × Feed State :=
  match feed.ended with
  | some ending => (ending.result, feed)
  | none =>
    let (ending, state) := consumer.run feed.queue.toList feed.state
    (ending.result, { state, queue := #[], ended := some ending })

/-- Ask the consumer to end after what waits, and wait for that. -/
def close (consumer : Consumer State) (feed : Feed State) : Except Fault Unit × Feed State :=
  (feed.send .close).2.join consumer

end Feed

namespace Session

variable {host : Host}

/-- A session takes the items of a stream. -/
def consumer : Consumer (Session host) where
  consume item session :=
    match session.handle item with
    | (.ok admission, session) => (.admitted admission, session)
    | (.error fault, session) => (.refused (.replication fault), session)
  close session :=
    match session.close with
    | (.ok _, session) => (.ok (), session)
    | (.error fault, session) => (.error (.replication fault), session)

end Session
end Standby
