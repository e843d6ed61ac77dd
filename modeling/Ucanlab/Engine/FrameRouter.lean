import Ucanlab.Core.CanFrame
import Ucanlab.Lib.Dict

/-!
The frame router: subscriptions that are replaced and never changed, a snapshot of them for the
dispatch of a frame, callbacks with a time budget, and bounded queues. The operations of a sequence
do not nest, and a callback is known by the time that it takes.
-/

namespace Ucanlab.FrameRouter

open Ucanlab

def maxQueueSize : Nat := 10000

def flushThreshold : Nat := 256

/-- Milliseconds. -/
def callbackBudgetMs : Rat := 20

def callbackTripAfter : Nat := 10

section Subscriptions

/-- A subscription handle. Of its queue it has the bound here; what the queue holds is kept under the
handle's number. -/
structure Subscription (Callback : Type) where
  subId : Nat
  callback : Option Callback
  frameQueue : Option Nat
  filterIds : Option (List Nat)
  channelId : Option String
  isDemoted : Bool := false

/-- What a consumer subscribes with. -/
structure Request (Callback : Type) where
  callback : Option Callback := none
  filterIds : Option (List Nat) := none
  channelId : Option String := none
  useQueue : Bool := false
  queueMaxsize : Int := maxQueueSize

variable {Callback : Type}

def Request.valid (request : Request Callback) : Bool :=
  decide (1 ≤ request.queueMaxsize ∧ request.queueMaxsize ≤ maxQueueSize)

def Request.subscription (request : Request Callback) (subId : Nat) : Subscription Callback where
  subId := subId
  callback := request.callback
  frameQueue := if request.useQueue then some request.queueMaxsize.toNat else none
  filterIds := request.filterIds
  channelId := request.channelId

def Subscription.accepts (sub : Subscription Callback) (frame : CanFrame) : Bool :=
  !sub.channelId.any (fun channelId => frame.channelId != channelId) &&
    !sub.filterIds.any (fun ids => !ids.contains frame.arbitrationId)

end Subscriptions

section Counters

structure Counters where
  totalRouted : Nat := 0
  totalDropped : Nat := 0
  routed : Nat := 0
  dropped : Nat := 0

/-- `_flush_counter_locked`. -/
def Counters.flush (counters : Counters) : Counters where
  totalRouted := counters.totalRouted + counters.routed
  totalDropped := counters.totalDropped + counters.dropped
  routed := 0
  dropped := 0

def Counters.noteRouted (counters : Counters) : Counters :=
  let counted := { counters with routed := counters.routed + 1 }
  if counted.routed ≥ flushThreshold then counted.flush else counted

def Counters.noteDropped (counters : Counters) : Counters :=
  let counted := { counters with dropped := counters.dropped + 1 }
  if counted.dropped ≥ flushThreshold then counted.flush else counted

end Counters

section Router

/-- The router with the queues that it made, and what the outside has seen of it: the calls of the
callbacks and the frames that consumers took from their queues. -/
structure Router (Callback : Type) where
  subscriptions : Dict Nat (Subscription Callback) := []
  routeSnapshot : List (Subscription Callback) := []
  nextSubId : Nat := 1
  callbackTripCounts : Dict Nat Nat := []
  counters : Counters := {}
  queues : Nat → List CanFrame := fun _ => []
  calls : List (Nat × Callback × CanFrame) := []
  taken : List (Nat × CanFrame) := []

variable {Callback : Type}

def Router.noteCall (router : Router Callback) (subId : Nat) (callback : Callback)
    (frame : CanFrame) : Router Callback :=
  { router with calls := router.calls ++ [(subId, callback, frame)] }

def Router.setTrips (router : Router Callback) (counts : Dict Nat Nat) : Router Callback :=
  { router with callbackTripCounts := counts }

def Router.setQueue (router : Router Callback) (subId : Nat) (waiting : List CanFrame) :
    Router Callback :=
  { router with queues := fun other => if other = subId then waiting else router.queues other }

def Router.noteRouted (router : Router Callback) : Router Callback :=
  { router with counters := router.counters.noteRouted }

def Router.noteDropped (router : Router Callback) : Router Callback :=
  { router with counters := router.counters.noteDropped }

def rebuildSnapshot (router : Router Callback) : Router Callback :=
  { router with routeSnapshot := router.subscriptions.map Prod.snd }

def replaceSubscription (router : Router Callback) (sub : Subscription Callback) :
    Router Callback :=
  rebuildSnapshot { router with subscriptions := router.subscriptions.set sub.subId sub }

def register (router : Router Callback) (sub : Subscription Callback) : Router Callback :=
  rebuildSnapshot { router.setQueue sub.subId [] with
    nextSubId := sub.subId + 1
    subscriptions := router.subscriptions.set sub.subId sub }

def subscribe (router : Router Callback) (request : Request Callback) :
    Except String Nat × Router Callback :=
  if request.valid then
    (.ok router.nextSubId, register router (request.subscription router.nextSubId))
  else
    (.error ("queue_maxsize must be in range 1..10000, got " ++ toString request.queueMaxsize),
      router)

def unsubscribe (router : Router Callback) (subId : Nat) : Bool × Router Callback :=
  if router.subscriptions.contains subId then
    let removed := rebuildSnapshot { router with
      subscriptions := router.subscriptions.erase subId }
    (true, removed.setTrips (removed.callbackTripCounts.erase subId))
  else (false, router)

def demote (router : Router Callback) (subId : Nat) : Router Callback :=
  match router.subscriptions.get? subId with
  | some current => replaceSubscription router { current with callback := none, isDemoted := true }
  | none => router

/-- One more call over the budget for a subscriber without a queue. -/
def countTrip (router : Router Callback) (subId : Nat) : Router Callback :=
  let trips := (router.callbackTripCounts.get? subId).getD 0 + 1
  let counted := router.setTrips (router.callbackTripCounts.set subId trips)
  if trips ≥ callbackTripAfter then demote counted subId else counted

/-- Calls the callback, whether or not it raises, and looks at the time that it took. -/
def invoke (frame : CanFrame) (elapsedMs : Rat) (router : Router Callback)
    (sub : Subscription Callback) : Router Callback :=
  match sub.callback with
  | none => router
  | some callback =>
      let called := router.noteCall sub.subId callback frame
      if elapsedMs > callbackBudgetMs then
        if sub.frameQueue.isSome then demote called sub.subId else countTrip called sub.subId
      else called.setTrips (called.callbackTripCounts.erase sub.subId)

/-- `put_nowait`: a frame that finds the queue full is dropped. -/
def enqueue (frame : CanFrame) (router : Router Callback) (sub : Subscription Callback) :
    Router Callback :=
  match sub.frameQueue with
  | none => router
  | some bound =>
      if (router.queues sub.subId).length < bound then
        router.setQueue sub.subId (router.queues sub.subId ++ [frame])
      else router.noteDropped

def dispatch (frame : CanFrame) (elapsedMs : Nat → Rat) (router : Router Callback)
    (sub : Subscription Callback) : Router Callback :=
  if sub.accepts frame then
    enqueue frame (invoke frame (elapsedMs sub.subId) router sub) sub
  else router

/-- The frame goes through the subscriptions of the snapshot that there is at its start; every
subscriber's callback takes its own time. -/
def routeFrame (router : Router Callback) (frame : CanFrame) (elapsedMs : Nat → Rat) :
    Nat × Router Callback :=
  let subscribers := router.routeSnapshot
  (subscribers.countP (fun sub => sub.accepts frame),
    subscribers.foldl (dispatch frame elapsedMs) router.noteRouted)

def restoreCallback (router : Router Callback) (subId : Nat) (callback : Callback) :
    Bool × Router Callback :=
  match router.subscriptions.get? subId with
  | none => (false, router)
  | some sub =>
      let armed := replaceSubscription router
        { sub with callback := some callback, isDemoted := false }
      (true, armed.setTrips (armed.callbackTripCounts.erase subId))

def readQueue (router : Router Callback) (subId : Nat) : Option CanFrame × Router Callback :=
  match router.queues subId with
  | [] => (none, router)
  | frame :: rest =>
      (some frame, { router.setQueue subId rest with taken := router.taken ++ [(subId, frame)] })

structure Stats where
  activeSubscriptions : Nat
  totalRouted : Nat
  totalDropped : Nat

/-- The counters are published before they are read. -/
def stats (router : Router Callback) : Stats × Router Callback :=
  let drained := { router with counters := router.counters.flush }
  ({ activeSubscriptions := drained.routeSnapshot.length
     totalRouted := drained.counters.totalRouted
     totalDropped := drained.counters.totalDropped }, drained)

inductive Operation (Callback : Type) where
  | subscribe (request : Request Callback)
  | unsubscribe (subId : Nat)
  | routeFrame (frame : CanFrame) (elapsedMs : Nat → Rat)
  | restoreCallback (subId : Nat) (callback : Callback)
  | read (subId : Nat)

def perform (router : Router Callback) : Operation Callback → Router Callback
  | .subscribe request => (subscribe router request).2
  | .unsubscribe subId => (unsubscribe router subId).2
  | .routeFrame frame elapsedMs => (routeFrame router frame elapsedMs).2
  | .restoreCallback subId callback => (restoreCallback router subId callback).2
  | .read subId => (readQueue router subId).2

def run (history : List (Operation Callback)) : Router Callback := history.foldl perform {}

def Router.callsOf (router : Router Callback) (subId : Nat) : List (Callback × CanFrame) :=
  (router.calls.filter (fun call => decide (call.1 = subId))).map Prod.snd

/-- What the consumer of a queue took from it. -/
def Router.takenBy (router : Router Callback) (subId : Nat) : List CanFrame :=
  (router.taken.filter (fun read => decide (read.1 = subId))).map Prod.snd

end Router

end Ucanlab.FrameRouter
