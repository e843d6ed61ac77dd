import Ucanlab.Engine.FrameRouter

/-!
The router as each subscriber sees it: a view follows one subscription through a history and knows
of no other, and the router gives every subscriber what its view says.
-/

namespace Ucanlab.FrameRouter

open Ucanlab

variable {Callback : Type}

section Views

inductive Mark where
  | late
  | within
  | restored
  deriving DecidableEq

def overRun (marks : List Mark) : Nat :=
  (marks.reverse.takeWhile (fun mark => decide (mark = .late))).length

/-- The request of the subscription while there is one, its callback until it is demoted or tripped,
and the whole of what was called, received and taken. -/
structure View (Callback : Type) where
  next : Nat := 1
  request : Option (Request Callback) := none
  armed : Option Callback := none
  dismissed : Bool := false
  marks : List Mark := []
  calls : List (Callback × CanFrame) := []
  received : List CanFrame := []
  taken : List CanFrame := []

def Request.Wants (request : Request Callback) (frame : CanFrame) : Prop :=
  (∀ channelId, request.channelId = some channelId → frame.channelId = channelId) ∧
    ∀ ids, request.filterIds = some ids → frame.arbitrationId ∈ ids

theorem accepts_iff (request : Request Callback) (subId : Nat) (frame : CanFrame) :
    (request.subscription subId).accepts frame = true ↔ request.Wants frame := by
  unfold Subscription.accepts Request.Wants Request.subscription
  simp only [Bool.and_eq_true, Bool.not_eq_true', ← Bool.not_eq_true, Option.any_eq_true]
  simp

instance (request : Request Callback) (frame : CanFrame) : Decidable (request.Wants frame) :=
  decidable_of_iff _ (accepts_iff request 0 frame)

def View.waiting (view : View Callback) : List CanFrame := view.received.drop view.taken.length

/-- A callback over the budget is demoted where there is a queue, and tripped where there is none
and it was the tenth time in a row. -/
def View.called (view : View Callback) (request : Request Callback) (frame : CanFrame)
    (late : Bool) : View Callback :=
  match view.armed with
  | none => view
  | some callback =>
      let marks := view.marks ++ [if late then .late else .within]
      let noted := { view with marks := marks, calls := view.calls ++ [(callback, frame)] }
      if late && (request.useQueue || decide (overRun marks = callbackTripAfter)) then
        { noted with armed := none, dismissed := true }
      else noted

def View.offered (view : View Callback) (request : Request Callback) (frame : CanFrame) :
    View Callback :=
  if request.useQueue ∧ (view.waiting.length : Int) < request.queueMaxsize then
    { view with received := view.received ++ [frame] }
  else view

/-- The subscriptions that are made are numbered from one on. -/
def View.subscribed (subId : Nat) (view : View Callback) (request : Request Callback) :
    View Callback :=
  if request.valid then
    if view.next = subId then
      { view with next := view.next + 1, request := some request, armed := request.callback }
    else { view with next := view.next + 1 }
  else view

def View.routed (view : View Callback) (frame : CanFrame) (late : Bool) : View Callback :=
  match view.request with
  | none => view
  | some request =>
      if request.Wants frame then (view.called request frame late).offered request frame else view

def View.restored (view : View Callback) (callback : Callback) : View Callback :=
  if view.request.isSome then
    { view with
      armed := some callback
      dismissed := false
      marks := view.marks ++ [.restored] }
  else view

def View.reads (view : View Callback) : View Callback :=
  match view.waiting with
  | [] => view
  | frame :: _ => { view with taken := view.taken ++ [frame] }

def View.after (subId : Nat) (view : View Callback) : Operation Callback → View Callback
  | .subscribe request => view.subscribed subId request
  | .unsubscribe other => if other = subId then { view with request := none } else view
  | .routeFrame frame elapsedMs =>
      view.routed frame (decide (elapsedMs subId > callbackBudgetMs))
  | .restoreCallback other callback => if other = subId then view.restored callback else view
  | .read other => if other = subId then view.reads else view

def view (subId : Nat) (history : List (Operation Callback)) : View Callback :=
  history.foldl (View.after subId) {}

end Views

section Kept

/-- The subscriptions are under their own numbers, which are below the next one, and the snapshot is
of them. -/
structure Kept (router : Router Callback) : Prop where
  keyed : ∀ entry ∈ router.subscriptions, entry.2.subId = entry.1
  distinct : router.subscriptions.keys.Nodup
  below : ∀ key ∈ router.subscriptions.keys, key < router.nextSubId
  snapshot : router.routeSnapshot = router.subscriptions.map Prod.snd

variable {router : Router Callback}

theorem Kept.initial : Kept ({} : Router Callback) where
  keyed _ member := absurd member List.not_mem_nil
  distinct := List.nodup_nil
  below _ member := absurd member List.not_mem_nil
  snapshot := rfl

theorem Kept.subId (kept : Kept router) {key : Nat} {sub : Subscription Callback}
    (found : router.subscriptions.get? key = some sub) : sub.subId = key :=
  kept.keyed _ (Dict.mem_of_get? found)

theorem Kept.replace (kept : Kept router) {sub : Subscription Callback}
    (present : sub.subId ∈ router.subscriptions.keys) : Kept (replaceSubscription router sub) where
  keyed entry member := by
    rcases Dict.mem_of_mem_set member with same | old
    · rw [same]
    · exact kept.keyed entry old
  distinct := Dict.nodup_keys_set kept.distinct sub.subId sub
  below key member := by
    change key ∈ (router.subscriptions.set sub.subId sub).keys at member
    rw [Dict.keys_set_of_present sub present] at member
    exact kept.below key member
  snapshot := rfl

theorem Kept.demote (kept : Kept router) (subId : Nat) : Kept (demote router subId) := by
  unfold FrameRouter.demote
  split
  · rename_i current found
    refine kept.replace ?_
    change current.subId ∈ router.subscriptions.keys
    exact kept.subId found ▸ Dict.mem_keys (Dict.mem_of_get? found)
  · exact kept

/-- Counts, queues and what the outside has seen are no part of it. -/
theorem Kept.congr (kept : Kept router) {other : Router Callback}
    (subscriptions : other.subscriptions = router.subscriptions)
    (snapshot : other.routeSnapshot = router.routeSnapshot)
    (next : other.nextSubId = router.nextSubId) : Kept other where
  keyed := subscriptions ▸ kept.keyed
  distinct := subscriptions ▸ kept.distinct
  below := by
    rw [subscriptions, next]
    exact kept.below
  snapshot := by
    rw [snapshot, subscriptions]
    exact kept.snapshot

theorem Kept.noteCall (kept : Kept router) (subId : Nat) (callback : Callback) (frame : CanFrame) :
    Kept (router.noteCall subId callback frame) := kept.congr rfl rfl rfl

theorem Kept.setTrips (kept : Kept router) (counts : Dict Nat Nat) : Kept (router.setTrips counts) :=
  kept.congr rfl rfl rfl

theorem Kept.setQueue (kept : Kept router) (subId : Nat) (waiting : List CanFrame) :
    Kept (router.setQueue subId waiting) := kept.congr rfl rfl rfl

theorem Kept.countTrip (kept : Kept router) (subId : Nat) : Kept (countTrip router subId) := by
  unfold FrameRouter.countTrip
  dsimp only
  split
  · exact (kept.setTrips _).demote subId
  · exact kept.setTrips _

theorem Kept.invoke (kept : Kept router) (frame : CanFrame) (elapsedMs : Rat)
    (sub : Subscription Callback) : Kept (invoke frame elapsedMs router sub) := by
  unfold FrameRouter.invoke
  split
  · exact kept
  · rename_i callback _
    have called := kept.noteCall sub.subId callback frame
    dsimp only
    split
    · split
      · exact called.demote sub.subId
      · exact called.countTrip sub.subId
    · exact called.setTrips _

theorem Kept.dispatch (kept : Kept router) (frame : CanFrame) (elapsedMs : Nat → Rat)
    (sub : Subscription Callback) : Kept (dispatch frame elapsedMs router sub) := by
  have invoked := kept.invoke frame (elapsedMs sub.subId) sub
  unfold FrameRouter.dispatch
  split
  · unfold enqueue
    split
    · exact invoked
    · split
      · exact invoked.setQueue _ _
      · exact invoked.congr rfl rfl rfl
  · exact kept

theorem Kept.dispatchAll (frame : CanFrame) (elapsedMs : Nat → Rat)
    (subs : List (Subscription Callback)) (kept : Kept router) :
    Kept (subs.foldl (FrameRouter.dispatch frame elapsedMs) router) := by
  induction subs generalizing router with
  | nil => exact kept
  | cons sub rest ih => exact ih (kept.dispatch frame elapsedMs sub)

theorem Kept.perform (kept : Kept router) (operation : Operation Callback) :
    Kept (perform router operation) := by
  cases operation with
  | subscribe request =>
      change Kept (FrameRouter.subscribe router request).2
      unfold FrameRouter.subscribe
      split
      · constructor
        case keyed =>
          intro entry member
          rcases Dict.mem_of_mem_set member with same | old
          · rw [same]
          · exact kept.keyed entry old
        case distinct => exact Dict.nodup_keys_set kept.distinct _ _
        case below =>
          intro key member
          rcases Dict.mem_keys_set.mp member with same | old
          · exact Nat.lt_succ_of_le (Nat.le_of_eq same)
          · exact Nat.lt_succ_of_lt (kept.below key old)
        case snapshot => rfl
      · exact kept
  | unsubscribe subId =>
      change Kept (FrameRouter.unsubscribe router subId).2
      unfold FrameRouter.unsubscribe
      split
      · constructor
        case keyed => exact fun entry member => kept.keyed entry (Dict.mem_erase.mp member).1
        case distinct => exact kept.distinct.sublist (Dict.keys_erase_sublist _ subId)
        case below => exact fun key member => kept.below key (Dict.mem_keys_erase.mp member).2
        case snapshot => rfl
      · exact kept
  | routeFrame frame elapsedMs =>
      exact Kept.dispatchAll frame elapsedMs _ (kept.congr rfl rfl rfl)
  | restoreCallback subId callback =>
      change Kept (FrameRouter.restoreCallback router subId callback).2
      unfold FrameRouter.restoreCallback
      split
      · exact kept
      · rename_i sub found
        have present : sub.subId ∈ router.subscriptions.keys :=
          kept.subId found ▸ Dict.mem_keys (Dict.mem_of_get? found)
        have replaced : Kept (replaceSubscription router
            { sub with callback := some callback, isDemoted := false }) := kept.replace present
        exact replaced.setTrips _
  | read subId =>
      change Kept (FrameRouter.readQueue router subId).2
      unfold FrameRouter.readQueue
      split
      · exact kept
      · exact kept.congr rfl rfl rfl

end Kept

section Portions

structure Portion (Callback : Type) where
  entry : Option (Subscription Callback)
  trips : Option Nat
  queue : List CanFrame
  calls : List (Callback × CanFrame)
  taken : List CanFrame

def portion (subId : Nat) (router : Router Callback) : Portion Callback where
  entry := router.subscriptions.get? subId
  trips := router.callbackTripCounts.get? subId
  queue := router.queues subId
  calls := router.callsOf subId
  taken := router.takenBy subId

def Portion.demoted (own : Portion Callback) : Portion Callback :=
  { own with entry := own.entry.map (fun sub => { sub with callback := none, isDemoted := true }) }

def Portion.tripped (own : Portion Callback) : Portion Callback :=
  let trips := own.trips.getD 0 + 1
  let counted := { own with trips := some trips }
  if trips ≥ callbackTripAfter then counted.demoted else counted

def Portion.invoked (own : Portion Callback) (sub : Subscription Callback) (frame : CanFrame)
    (elapsedMs : Rat) : Portion Callback :=
  match sub.callback with
  | none => own
  | some callback =>
      let called := { own with calls := own.calls ++ [(callback, frame)] }
      if elapsedMs > callbackBudgetMs then
        if sub.frameQueue.isSome then called.demoted else called.tripped
      else { called with trips := none }

def Portion.enqueued (own : Portion Callback) (sub : Subscription Callback) (frame : CanFrame) :
    Portion Callback :=
  match sub.frameQueue with
  | none => own
  | some bound =>
      if own.queue.length < bound then { own with queue := own.queue ++ [frame] } else own

variable {router : Router Callback} {subId : Nat}

theorem portion_setTrips_other {counts : Dict Nat Nat}
    (same : counts.get? subId = router.callbackTripCounts.get? subId) :
    portion subId (router.setTrips counts) = portion subId router := by
  unfold portion
  change Portion.mk _ (counts.get? subId) _ _ _ = _
  rw [same]
  rfl

section Other

variable {sub : Subscription Callback} (other : sub.subId ≠ subId)

include other

theorem portion_replace_other :
    portion subId (replaceSubscription router sub) = portion subId router := by
  have entry : (router.subscriptions.set sub.subId sub).get? subId =
      router.subscriptions.get? subId := Dict.get?_set_ne _ other.symm sub
  unfold portion
  change Portion.mk ((router.subscriptions.set sub.subId sub).get? subId) _ _ _ _ = _
  rw [entry]
  rfl

theorem portion_demote_other (kept : Kept router) :
    portion subId (demote router sub.subId) = portion subId router := by
  unfold demote
  split
  · rename_i current found
    refine portion_replace_other ?_
    change current.subId ≠ subId
    rwa [kept.subId found]
  · rfl

theorem portion_setQueue_other (waiting : List CanFrame) :
    portion subId (router.setQueue sub.subId waiting) = portion subId router := by
  have queue : (router.setQueue sub.subId waiting).queues subId = router.queues subId :=
    if_neg other.symm
  unfold portion
  rw [queue]
  rfl

theorem portion_noteCall_other (callback : Callback) (frame : CanFrame) :
    portion subId (router.noteCall sub.subId callback frame) = portion subId router := by
  have calls : (router.noteCall sub.subId callback frame).callsOf subId = router.callsOf subId := by
    unfold Router.callsOf Router.noteCall
    rw [List.filter_append, List.filter_cons_of_neg (by simpa using other), List.filter_nil,
      List.append_nil]
  unfold portion
  rw [calls]
  rfl

theorem portion_countTrip_other (kept : Kept router) :
    portion subId (countTrip router sub.subId) = portion subId router := by
  have counted : ∀ trips : Nat, portion subId
      (router.setTrips (router.callbackTripCounts.set sub.subId trips)) = portion subId router :=
    fun trips => portion_setTrips_other (Dict.get?_set_ne _ other.symm trips)
  unfold countTrip
  dsimp only
  split
  · exact (portion_demote_other other (kept.setTrips _)).trans (counted _)
  · exact counted _

theorem portion_invoke_other (kept : Kept router) (frame : CanFrame) (elapsedMs : Rat) :
    portion subId (invoke frame elapsedMs router sub) = portion subId router := by
  unfold invoke
  split
  · rfl
  · rename_i callback _
    have called : portion subId (router.noteCall sub.subId callback frame) = _ :=
      portion_noteCall_other other callback frame
    have keptCall := kept.noteCall sub.subId callback frame
    dsimp only
    split
    · split
      · exact (portion_demote_other other keptCall).trans called
      · exact (portion_countTrip_other other keptCall).trans called
    · exact (portion_setTrips_other (Dict.get?_erase_ne _ other.symm)).trans called

theorem portion_dispatch_other (kept : Kept router) (frame : CanFrame) (elapsedMs : Nat → Rat) :
    portion subId (dispatch frame elapsedMs router sub) = portion subId router := by
  have invoked := portion_invoke_other other kept frame (elapsedMs sub.subId)
  unfold dispatch
  split
  · unfold enqueue
    split
    · exact invoked
    · split
      · exact (portion_setQueue_other other _).trans invoked
      · exact invoked
  · rfl

end Other

theorem portion_dispatchAll_other (kept : Kept router) (frame : CanFrame) (elapsedMs : Nat → Rat)
    (subs : List (Subscription Callback)) (others : ∀ sub ∈ subs, sub.subId ≠ subId) :
    portion subId (subs.foldl (dispatch frame elapsedMs) router) = portion subId router := by
  induction subs generalizing router with
  | nil => rfl
  | cons sub rest ih =>
      obtain ⟨first, later⟩ := List.forall_mem_cons.mp others
      exact (ih (kept.dispatch frame elapsedMs sub) later).trans
        (portion_dispatch_other first kept frame elapsedMs)

theorem portion_replace (kept : Kept router) {current sub : Subscription Callback}
    (found : router.subscriptions.get? subId = some current) (own : sub.subId = current.subId) :
    portion subId (replaceSubscription router sub) =
      { portion subId router with entry := some sub } := by
  have entry : (router.subscriptions.set sub.subId sub).get? subId = some sub := by
    rw [own, kept.subId found]
    exact Dict.get?_set_self _ _ _
  unfold portion
  change Portion.mk ((router.subscriptions.set sub.subId sub).get? subId) _ _ _ _ = _
  rw [entry]
  rfl

theorem portion_demote (kept : Kept router) :
    portion subId (demote router subId) = (portion subId router).demoted := by
  have entry : (portion subId router).entry = router.subscriptions.get? subId := rfl
  unfold demote Portion.demoted
  rw [entry]
  split
  · rename_i current found
    rw [found]
    exact portion_replace kept found rfl
  · rename_i absent
    rw [absent]
    change portion subId router = { portion subId router with entry := none }
    rw [← absent]
    rfl

theorem portion_setTrips (counts : Dict Nat Nat) :
    portion subId (router.setTrips counts) =
      { portion subId router with trips := counts.get? subId } := rfl

theorem portion_countTrip (kept : Kept router) :
    portion subId (countTrip router subId) = (portion subId router).tripped := by
  have counted : ∀ trips : Nat, portion subId
      (router.setTrips (router.callbackTripCounts.set subId trips)) =
        { portion subId router with trips := some trips } := by
    intro trips
    rw [portion_setTrips, Dict.get?_set_self]
  unfold countTrip Portion.tripped
  dsimp only
  rw [← counted, ← portion_demote (kept.setTrips _)]
  exact apply_ite _ _ _ _

theorem portion_noteCall {sub : Subscription Callback} (own : sub.subId = subId)
    (callback : Callback) (frame : CanFrame) :
    portion subId (router.noteCall sub.subId callback frame) =
      { portion subId router with calls := (portion subId router).calls ++ [(callback, frame)] } := by
  have calls : (router.noteCall sub.subId callback frame).callsOf subId =
      router.callsOf subId ++ [(callback, frame)] := by
    unfold Router.callsOf Router.noteCall
    rw [List.filter_append, List.filter_cons_of_pos (by simpa using own), List.filter_nil,
      List.map_append]
    rfl
  unfold portion
  rw [calls]
  rfl

theorem portion_invoke (kept : Kept router) {sub : Subscription Callback} (own : sub.subId = subId)
    (frame : CanFrame) (elapsedMs : Rat) :
    portion subId (invoke frame elapsedMs router sub) =
      (portion subId router).invoked sub frame elapsedMs := by
  unfold invoke Portion.invoked
  cases sub.callback with
  | none => rfl
  | some callback =>
    have called : portion subId (router.noteCall sub.subId callback frame) = _ :=
      portion_noteCall own callback frame
    have keptCall := kept.noteCall sub.subId callback frame
    dsimp only
    rw [← called]
    subst own
    split
    · split
      · exact portion_demote keptCall
      · exact portion_countTrip keptCall
    · rw [portion_setTrips, Dict.get?_erase_self, called]

theorem portion_enqueue {sub : Subscription Callback} (own : sub.subId = subId) (frame : CanFrame) :
    portion subId (enqueue frame router sub) = (portion subId router).enqueued sub frame := by
  subst own
  unfold enqueue Portion.enqueued
  cases sub.frameQueue with
  | none => rfl
  | some bound =>
    have queued : ∀ waiting, portion sub.subId (router.setQueue sub.subId waiting) =
        { portion sub.subId router with queue := waiting } := by
      intro waiting
      have queue : (router.setQueue sub.subId waiting).queues sub.subId = waiting := if_pos rfl
      unfold portion
      rw [queue]
      rfl
    have length : (portion sub.subId router).queue = router.queues sub.subId := rfl
    dsimp only
    rw [length]
    split
    · exact queued _
    · rfl

def Portion.dispatched (own : Portion Callback) (sub : Subscription Callback) (frame : CanFrame)
    (elapsedMs : Rat) : Portion Callback :=
  if sub.accepts frame then (own.invoked sub frame elapsedMs).enqueued sub frame else own

theorem portion_dispatch (kept : Kept router) {sub : Subscription Callback}
    (own : sub.subId = subId) (frame : CanFrame) (elapsedMs : Nat → Rat) :
    portion subId (dispatch frame elapsedMs router sub) =
      (portion subId router).dispatched sub frame (elapsedMs subId) := by
  unfold dispatch Portion.dispatched
  split
  · rw [portion_enqueue own, portion_invoke kept own, own]
  · rfl

theorem portion_dispatchAll (kept : Kept router) {before after : List (Subscription Callback)}
    {sub : Subscription Callback} (own : sub.subId = subId)
    (early : ∀ other ∈ before, other.subId ≠ subId) (late : ∀ other ∈ after, other.subId ≠ subId)
    (frame : CanFrame) (elapsedMs : Nat → Rat) :
    portion subId ((before ++ sub :: after).foldl (dispatch frame elapsedMs) router) =
      (portion subId router).dispatched sub frame (elapsedMs subId) := by
  have first := kept.dispatchAll frame elapsedMs before
  rw [List.foldl_append, List.foldl_cons,
    portion_dispatchAll_other (first.dispatch frame elapsedMs sub) frame elapsedMs after late,
    portion_dispatch first own, portion_dispatchAll_other kept frame elapsedMs before early]

theorem Kept.split (kept : Kept router) {sub : Subscription Callback}
    (found : router.subscriptions.get? subId = some sub) :
    ∃ before after, router.routeSnapshot = before ++ sub :: after ∧
      (∀ other ∈ before, other.subId ≠ subId) ∧ ∀ other ∈ after, other.subId ≠ subId := by
  obtain ⟨before, after, split⟩ := List.append_of_mem (Dict.mem_of_get? found)
  have keyed := kept.keyed
  have distinct := kept.distinct
  unfold Dict.keys at distinct
  rw [split] at keyed
  rw [split, List.map_append, List.map_cons, List.nodup_append] at distinct
  obtain ⟨-, later, apart⟩ := distinct
  refine ⟨before.map Prod.snd, after.map Prod.snd, ?_, ?_, ?_⟩
  · rw [kept.snapshot, split, List.map_append, List.map_cons]
  · intro other member same
    obtain ⟨entry, listed, rfl⟩ := List.mem_map.mp member
    have key : entry.1 = subId := (keyed entry (List.mem_append_left _ listed)).symm.trans same
    exact apart entry.1 (List.mem_map_of_mem listed) subId List.mem_cons_self key
  · intro other member same
    obtain ⟨entry, listed, rfl⟩ := List.mem_map.mp member
    have key : entry.1 = subId :=
      (keyed entry (List.mem_append_right _ (List.mem_cons_of_mem _ listed))).symm.trans same
    have again : subId ∈ after.map Prod.fst := List.mem_map.mpr ⟨entry, listed, key⟩
    exact (List.nodup_cons.mp later).1 again

theorem portion_routeFrame (kept : Kept router) (frame : CanFrame) (elapsedMs : Nat → Rat) :
    portion subId (routeFrame router frame elapsedMs).2 =
      match router.subscriptions.get? subId with
      | none => portion subId router
      | some sub => (portion subId router).dispatched sub frame (elapsedMs subId) := by
  have counted : Kept router.noteRouted := kept.congr rfl rfl rfl
  unfold routeFrame
  dsimp only
  split
  · rename_i absent
    refine portion_dispatchAll_other counted frame elapsedMs _ ?_
    intro sub member own
    rw [kept.snapshot] at member
    obtain ⟨entry, listed, rfl⟩ := List.mem_map.mp member
    exact Dict.get?_eq_none_iff.mp absent
      (own ▸ kept.keyed entry listed ▸ Dict.mem_keys listed)
  · rename_i sub found
    obtain ⟨before, after, split, early, late⟩ := kept.split found
    rw [split]
    exact portion_dispatchAll counted (kept.subId found) early late frame elapsedMs

end Portions

section Agreement

structure Agrees (subId : Nat) (own : Portion Callback) (view : View Callback) : Prop where
  entry : own.entry = view.request.map (fun request =>
    { request.subscription subId with callback := view.armed, isDemoted := view.dismissed })
  trips : own.trips.getD 0 =
    if view.request.any (fun request => !request.useQueue) then overRun view.marks else 0
  low : view.request.any (fun request => !request.useQueue) = true → view.armed ≠ none →
    overRun view.marks < callbackTripAfter
  received : view.received = view.taken ++ own.queue
  calls : view.calls = own.calls
  taken : view.taken = own.taken

variable {subId : Nat} {own : Portion Callback} {view : View Callback}

theorem overRun_over (marks : List Mark) : overRun (marks ++ [.late]) = overRun marks + 1 := by
  unfold overRun
  rw [List.reverse_append, List.reverse_singleton, List.singleton_append,
    List.takeWhile_cons_of_pos (by decide), List.length_cons]

theorem overRun_other (marks : List Mark) {mark : Mark} (other : mark ≠ .late) :
    overRun (marks ++ [mark]) = 0 := by
  unfold overRun
  rw [List.reverse_append, List.reverse_singleton, List.singleton_append,
    List.takeWhile_cons_of_neg (by simpa using other), List.length_nil]

theorem Agrees.waiting (agrees : Agrees subId own view) : view.waiting = own.queue := by
  unfold View.waiting
  rw [agrees.received, List.drop_left]

def View.subscription (view : View Callback) (request : Request Callback) (subId : Nat) :
    Subscription Callback :=
  { request.subscription subId with callback := view.armed, isDemoted := view.dismissed }

theorem frameQueue_isSome (request : Request Callback) (subId : Nat) :
    (request.subscription subId).frameQueue.isSome = request.useQueue := by
  unfold Request.subscription
  cases request.useQueue <;> rfl

theorem Agrees.called (agrees : Agrees subId own view) {request : Request Callback}
    (asked : view.request = some request) (frame : CanFrame) (elapsedMs : Rat) :
    Agrees subId (own.invoked (view.subscription request subId) frame elapsedMs)
      (view.called request frame (decide (elapsedMs > callbackBudgetMs))) := by
  have entry := agrees.entry
  have trips := agrees.trips
  have low := agrees.low
  have queue : (view.subscription request subId).frameQueue.isSome = request.useQueue :=
    frameQueue_isSome request subId
  unfold Portion.invoked View.called
  change Agrees subId (match view.armed with | none => _ | some callback => _) _
  cases armed : view.armed with
  | none => exact agrees
  | some callback =>
      rw [asked, armed] at entry
      rw [asked] at trips low
      have few := fun plain => low plain (armed ▸ Option.some_ne_none callback)
      dsimp only
      rw [queue]
      by_cases late : elapsedMs > callbackBudgetMs
      · rw [if_pos late, decide_eq_true late, if_pos rfl]
        cases useQueue : request.useQueue with
        | true =>
            simp only [Option.any_some, useQueue, Bool.not_true, Bool.false_eq_true,
              if_false] at trips
            constructor
            case entry => simp [Portion.demoted, entry, asked]
            case trips => simp [Portion.demoted, trips, asked, useQueue]
            case low => simp
            case received => exact agrees.received
            case calls => simp [Portion.demoted, agrees.calls]
            case taken => exact agrees.taken
        | false =>
            have plain : (some request).any (fun request => !request.useQueue) = true := by
              simp [useQueue]
            have bound := few plain
            rw [if_pos plain] at trips
            have last : own.trips.getD 0 + 1 ≥ callbackTripAfter ↔
                overRun view.marks + 1 = callbackTripAfter := by omega
            unfold Portion.tripped
            dsimp only
            rw [if_neg Bool.false_ne_true, overRun_over]
            by_cases tenth : overRun view.marks + 1 = callbackTripAfter
            · rw [if_pos (last.mpr tenth), decide_eq_true tenth, if_pos (by rfl)]
              constructor
              case entry => simp [Portion.demoted, entry, asked]
              case trips => simp [Portion.demoted, trips, asked, useQueue, overRun_over]
              case low => simp
              case received => exact agrees.received
              case calls => simp [Portion.demoted, agrees.calls]
              case taken => exact agrees.taken
            · rw [if_neg (mt last.mp tenth), decide_eq_false tenth, if_neg (by decide)]
              constructor
              case entry => simp [entry, asked]
              case trips => simp [trips, asked, useQueue, overRun_over]
              case low =>
                intro _ _
                rw [overRun_over]
                omega
              case received => exact agrees.received
              case calls => simp [agrees.calls]
              case taken => exact agrees.taken
      · rw [if_neg late, decide_eq_false late, if_neg Bool.false_ne_true]
        have run : overRun (view.marks ++ [Mark.within]) = 0 := overRun_other _ (by decide)
        constructor
        case entry => simp [entry, asked]
        case trips => simp [asked, run]
        case low => simp [run, callbackTripAfter]
        case received => exact agrees.received
        case calls => simp [agrees.calls]
        case taken => exact agrees.taken

theorem Agrees.offered (agrees : Agrees subId own view) (request : Request Callback)
    (sub : Subscription Callback)
    (queue : sub.frameQueue = (request.subscription subId).frameQueue) (frame : CanFrame) :
    Agrees subId (own.enqueued sub frame) (view.offered request frame) := by
  unfold Portion.enqueued View.offered
  rw [agrees.waiting]
  cases useQueue : request.useQueue with
  | false =>
      have none : sub.frameQueue = none := by simp [queue, Request.subscription, useQueue]
      rw [none, if_neg (fun both => Bool.false_ne_true both.1)]
      exact agrees
  | true =>
      have bound : sub.frameQueue = some request.queueMaxsize.toNat := by
        simp [queue, Request.subscription, useQueue]
      rw [bound]
      dsimp only
      by_cases room : own.queue.length < request.queueMaxsize.toNat
      · rw [if_pos room, if_pos ⟨rfl, by omega⟩]
        exact { agrees with
          received := by
            change view.received ++ [frame] = view.taken ++ (own.queue ++ [frame])
            rw [agrees.received, List.append_assoc] }
      · rw [if_neg room, if_neg (fun both => room (by omega))]
        exact agrees

theorem called_next (view : View Callback) (request : Request Callback) (frame : CanFrame)
    (late : Bool) : (view.called request frame late).next = view.next := by
  unfold View.called
  split
  · rfl
  · dsimp only
    rw [apply_ite View.next]
    exact ite_self _

theorem offered_next (view : View Callback) (request : Request Callback) (frame : CanFrame) :
    (view.offered request frame).next = view.next := by
  unfold View.offered
  split <;> rfl

end Agreement

section Simulation

structure Related (subId : Nat) (router : Router Callback) (view : View Callback) : Prop where
  kept : Kept router
  next : view.next = router.nextSubId
  agrees : Agrees subId (portion subId router) view
  fresh : view.next ≤ subId → view = { next := view.next }

variable {subId : Nat} {router : Router Callback} {view : View Callback}

theorem Related.initial : Related subId ({} : Router Callback) {} where
  kept := .initial
  next := rfl
  agrees := {
    entry := rfl
    trips := rfl
    low := fun none => absurd none Bool.false_ne_true
    received := rfl
    calls := rfl
    taken := rfl }
  fresh _ := rfl

theorem Related.lookup (related : Related subId router view) :
    router.subscriptions.get? subId = view.request.map (fun request =>
      view.subscription request subId) := related.agrees.entry

theorem portion_register (sub : Subscription Callback) :
    portion sub.subId (register router sub) =
      { portion sub.subId router with entry := some sub, queue := [] } := by
  have entry : (register router sub).subscriptions.get? sub.subId = some sub :=
    Dict.get?_set_self _ _ _
  have queue : (register router sub).queues sub.subId = [] := if_pos rfl
  unfold portion
  rw [entry, queue]
  rfl

theorem portion_register_other {sub : Subscription Callback} (other : sub.subId ≠ subId) :
    portion subId (register router sub) = portion subId router := by
  have entry : (register router sub).subscriptions.get? subId = router.subscriptions.get? subId :=
    Dict.get?_set_ne _ other.symm sub
  have queue : (register router sub).queues subId = router.queues subId := if_neg other.symm
  unfold portion
  rw [entry, queue]
  rfl

theorem Related.subscribe (related : Related subId router view) (request : Request Callback) :
    Related subId (FrameRouter.subscribe router request).2 (view.subscribed subId request) := by
  have kept : Kept (FrameRouter.subscribe router request).2 :=
    related.kept.perform (.subscribe request)
  unfold FrameRouter.subscribe at kept ⊢
  unfold View.subscribed
  by_cases valid : request.valid = true
  · rw [if_pos valid] at kept ⊢
    rw [if_pos valid]
    dsimp only at kept ⊢
    have agrees := related.agrees
    by_cases own : view.next = subId
    · -- nothing was kept under the number yet
      have fresh := related.fresh (Nat.le_of_eq own)
      have number : router.nextSubId = subId := related.next.symm.trans own
      have made : portion subId (register router (request.subscription router.nextSubId)) =
          { portion subId router with entry := some (request.subscription subId), queue := [] } := by
        rw [number]
        exact portion_register _
      rw [fresh] at agrees
      rw [if_pos own, fresh]
      constructor
      case kept => exact kept
      case next => exact congrArg (· + 1) related.next
      case agrees =>
        rw [made]
        constructor
        case entry => rfl
        case trips => exact agrees.trips.trans (ite_self _).symm
        case low => exact fun _ _ => (by decide : overRun [] < callbackTripAfter)
        case received => rfl
        case calls => exact agrees.calls
        case taken => exact agrees.taken
      case fresh =>
        intro early
        exact absurd (own ▸ early : view.next + 1 ≤ view.next) (Nat.not_succ_le_self _)
    · have other : (request.subscription router.nextSubId).subId ≠ subId :=
        fun same => own (related.next.trans same)
      rw [if_neg own]
      constructor
      case kept => exact kept
      case next => exact congrArg (· + 1) related.next
      case agrees =>
        rw [portion_register_other other]
        exact { agrees with }
      case fresh =>
        intro early
        rw [related.fresh (Nat.le_of_succ_le early)]
  · rw [if_neg valid, if_neg valid]
    exact related

theorem portion_unsubscribe :
    portion subId (FrameRouter.unsubscribe router subId).2 =
      if (portion subId router).entry.isSome then
        { portion subId router with entry := none, trips := none }
      else portion subId router := by
  unfold FrameRouter.unsubscribe
  by_cases present : router.subscriptions.contains subId = true
  · have gone : (router.subscriptions.erase subId).get? subId = none := Dict.get?_erase_self _ _
    have uncounted : (router.callbackTripCounts.erase subId).get? subId = none :=
      Dict.get?_erase_self _ _
    rw [if_pos present, if_pos (show (portion subId router).entry.isSome = true from present)]
    change Portion.mk ((router.subscriptions.erase subId).get? subId)
      ((router.callbackTripCounts.erase subId).get? subId) _ _ _ = _
    rw [gone, uncounted]
    rfl
  · rw [if_neg present, if_neg (show ¬ (portion subId router).entry.isSome = true from present)]

theorem portion_unsubscribe_other {other : Nat} (ne : other ≠ subId) :
    portion subId (FrameRouter.unsubscribe router other).2 = portion subId router := by
  unfold FrameRouter.unsubscribe
  split
  · have entry : (router.subscriptions.erase other).get? subId = router.subscriptions.get? subId :=
      Dict.get?_erase_ne _ ne.symm
    have trips : (router.callbackTripCounts.erase other).get? subId =
        router.callbackTripCounts.get? subId := Dict.get?_erase_ne _ ne.symm
    change Portion.mk ((router.subscriptions.erase other).get? subId)
      ((router.callbackTripCounts.erase other).get? subId) _ _ _ = _
    rw [entry, trips]
    rfl
  · rfl

theorem Agrees.unsubscribed (agrees : Agrees subId own view) :
    Agrees subId (if own.entry.isSome then { own with entry := none, trips := none } else own)
      { view with request := none } := by
  have entry := agrees.entry
  split
  · exact ⟨rfl, rfl, fun none => absurd none Bool.false_ne_true, agrees.received, agrees.calls,
      agrees.taken⟩
  · rename_i absent
    have none : own.entry = none := Option.not_isSome_iff_eq_none.mp absent
    have unasked : view.request = .none := Option.map_eq_none_iff.mp (entry.symm.trans none)
    have trips := agrees.trips
    rw [unasked] at trips
    exact ⟨none, trips, fun none => absurd none Bool.false_ne_true, agrees.received, agrees.calls,
      agrees.taken⟩

theorem Related.unsubscribe (related : Related subId router view) (other : Nat) :
    Related subId (FrameRouter.unsubscribe router other).2
      (if other = subId then { view with request := none } else view) := by
  have kept : Kept (FrameRouter.unsubscribe router other).2 :=
    related.kept.perform (.unsubscribe other)
  have next : (FrameRouter.unsubscribe router other).2.nextSubId = router.nextSubId := by
    unfold FrameRouter.unsubscribe
    split <;> rfl
  by_cases own : other = subId
  · subst own
    rw [if_pos rfl]
    constructor
    case kept => exact kept
    case next => exact related.next.trans next.symm
    case agrees =>
      rw [portion_unsubscribe]
      exact related.agrees.unsubscribed
    case fresh =>
      intro early
      rw [related.fresh early]
  · rw [if_neg own]
    constructor
    case kept => exact kept
    case next => exact related.next.trans next.symm
    case agrees =>
      rw [portion_unsubscribe_other own]
      exact related.agrees
    case fresh => exact related.fresh

theorem dispatchAll_next (frame : CanFrame) (elapsedMs : Nat → Rat)
    (subs : List (Subscription Callback)) (router : Router Callback) :
    (subs.foldl (dispatch frame elapsedMs) router).nextSubId = router.nextSubId := by
  have demoted : ∀ (router : Router Callback) subId,
      (demote router subId).nextSubId = router.nextSubId := by
    intro router subId
    unfold demote
    split <;> rfl
  have invoked : ∀ (router : Router Callback) elapsed sub,
      (invoke frame elapsed router sub).nextSubId = router.nextSubId := by
    intro router elapsed sub
    unfold invoke countTrip
    split
    · rfl
    · dsimp only
      split
      · split
        · exact demoted _ _
        · split
          · exact demoted _ _
          · rfl
      · rfl
  induction subs generalizing router with
  | nil => rfl
  | cons sub rest ih =>
      refine (ih _).trans ?_
      unfold dispatch enqueue
      split
      · split
        · exact invoked _ _ _
        · split <;> exact invoked _ _ _
      · rfl

theorem Related.routeFrame (related : Related subId router view) (frame : CanFrame)
    (elapsedMs : Nat → Rat) :
    Related subId (FrameRouter.routeFrame router frame elapsedMs).2
      (view.routed frame (decide (elapsedMs subId > callbackBudgetMs))) := by
  have kept : Kept (FrameRouter.routeFrame router frame elapsedMs).2 :=
    related.kept.perform (.routeFrame frame elapsedMs)
  have next : (FrameRouter.routeFrame router frame elapsedMs).2.nextSubId = router.nextSubId :=
    dispatchAll_next frame elapsedMs _ _
  have agrees := related.agrees
  have found := related.lookup
  have delivered : portion subId (FrameRouter.routeFrame router frame elapsedMs).2 = _ :=
    portion_routeFrame related.kept frame elapsedMs
  rw [found] at delivered
  unfold View.routed
  cases asked : view.request with
  | none =>
      rw [asked] at delivered
      exact ⟨kept, related.next.trans next.symm, delivered ▸ agrees, related.fresh⟩
  | some request =>
      rw [asked] at delivered
      dsimp only [Option.map_some] at delivered ⊢
      have born : view.next ≤ subId → False := by
        intro early
        rw [related.fresh early] at asked
        cases asked
      have wants : (view.subscription request subId).accepts frame = true ↔ request.Wants frame :=
        accepts_iff request subId frame
      unfold Portion.dispatched at delivered
      by_cases wanted : request.Wants frame
      · rw [if_pos (wants.mpr wanted)] at delivered
        rw [if_pos wanted]
        have received := (agrees.called asked frame (elapsedMs subId)).offered request
          (view.subscription request subId) rfl frame
        have kind := (offered_next (view.called request frame
          (decide (elapsedMs subId > callbackBudgetMs))) request frame).trans
            (called_next view request frame _)
        exact ⟨kept, kind.trans (related.next.trans next.symm), delivered ▸ received,
          fun early => absurd (kind ▸ early) born⟩
      · rw [if_neg (mt wants.mp wanted)] at delivered
        rw [if_neg wanted]
        exact ⟨kept, related.next.trans next.symm, delivered ▸ agrees, related.fresh⟩

theorem portion_restoreCallback (kept : Kept router) (callback : Callback) :
    portion subId (FrameRouter.restoreCallback router subId callback).2 =
      match (portion subId router).entry with
      | none => portion subId router
      | some sub => { portion subId router with
          entry := some { sub with callback := some callback, isDemoted := false }
          trips := none } := by
  have entry : (portion subId router).entry = router.subscriptions.get? subId := rfl
  unfold FrameRouter.restoreCallback
  rw [entry]
  cases found : router.subscriptions.get? subId with
  | none => rfl
  | some sub =>
    have replaced : portion subId (replaceSubscription router
        { sub with callback := some callback, isDemoted := false }) =
          { portion subId router with
            entry := some { sub with callback := some callback, isDemoted := false } } :=
      portion_replace kept found rfl
    dsimp only
    rw [portion_setTrips, Dict.get?_erase_self, replaced]

theorem portion_restoreCallback_other (kept : Kept router) {other : Nat} (ne : other ≠ subId)
    (callback : Callback) :
    portion subId (FrameRouter.restoreCallback router other callback).2 = portion subId router := by
  unfold FrameRouter.restoreCallback
  split
  · rfl
  · rename_i sub found
    have replaced : portion subId (replaceSubscription router
        { sub with callback := some callback, isDemoted := false }) = portion subId router := by
      refine portion_replace_other ?_
      change sub.subId ≠ subId
      rwa [kept.subId found]
    exact (portion_setTrips_other (Dict.get?_erase_ne _ ne.symm)).trans replaced

theorem Agrees.restored (agrees : Agrees subId own view) (callback : Callback) :
    Agrees subId
      (match own.entry with
      | none => own
      | some sub => { own with
          entry := some { sub with callback := some callback, isDemoted := false }
          trips := none })
      (view.restored callback) := by
  have entry := agrees.entry
  unfold View.restored
  cases asked : view.request with
  | none =>
      rw [asked] at entry
      rw [entry]
      exact agrees
  | some request =>
      rw [asked] at entry
      rw [entry]
      have run : overRun (view.marks ++ [.restored]) = 0 := overRun_other _ (by decide)
      constructor
      case entry => simp
      case trips => simp [run]
      case low => simp [run, callbackTripAfter]
      case received => exact agrees.received
      case calls => exact agrees.calls
      case taken => exact agrees.taken

theorem Related.restoreCallback (related : Related subId router view) (other : Nat)
    (callback : Callback) :
    Related subId (FrameRouter.restoreCallback router other callback).2
      (if other = subId then view.restored callback else view) := by
  have kept : Kept (FrameRouter.restoreCallback router other callback).2 :=
    related.kept.perform (.restoreCallback other callback)
  have next : (FrameRouter.restoreCallback router other callback).2.nextSubId =
      router.nextSubId := by
    unfold FrameRouter.restoreCallback
    split <;> rfl
  have same : (view.restored callback).next = view.next := by
    unfold View.restored
    split <;> rfl
  by_cases own : other = subId
  · subst own
    rw [if_pos rfl]
    constructor
    case kept => exact kept
    case next => exact same.trans (related.next.trans next.symm)
    case agrees =>
      rw [portion_restoreCallback related.kept]
      exact related.agrees.restored callback
    case fresh =>
      intro early
      rw [related.fresh (same ▸ early)]
      rfl
  · rw [if_neg own]
    exact ⟨kept, related.next.trans next.symm,
      portion_restoreCallback_other related.kept own callback ▸ related.agrees, related.fresh⟩

theorem portion_readQueue :
    portion subId (readQueue router subId).2 =
      match (portion subId router).queue with
      | [] => portion subId router
      | frame :: rest => { portion subId router with
          queue := rest
          taken := (portion subId router).taken ++ [frame] } := by
  have queue : (portion subId router).queue = router.queues subId := rfl
  unfold readQueue
  rw [queue]
  cases router.queues subId with
  | nil => rfl
  | cons frame rest =>
    have waiting : (router.setQueue subId rest).queues subId = rest := if_pos rfl
    have taken : ((router.taken ++ [(subId, frame)]).filter
        (fun read => decide (read.1 = subId))).map Prod.snd = router.takenBy subId ++ [frame] := by
      unfold Router.takenBy
      rw [List.filter_append, List.filter_cons_of_pos (by simp), List.filter_nil, List.map_append]
      rfl
    change Portion.mk _ _ ((router.setQueue subId rest).queues subId) _
      (((router.taken ++ [(subId, frame)]).filter
        (fun read => decide (read.1 = subId))).map Prod.snd) = _
    rw [waiting, taken]
    rfl

theorem portion_readQueue_other {other : Nat} (ne : other ≠ subId) :
    portion subId (readQueue router other).2 = portion subId router := by
  unfold readQueue
  split
  · rfl
  · rename_i frame rest found
    have waiting : (router.setQueue other rest).queues subId = router.queues subId :=
      if_neg ne.symm
    have taken : ((router.taken ++ [(other, frame)]).filter
        (fun read => decide (read.1 = subId))).map Prod.snd = router.takenBy subId := by
      unfold Router.takenBy
      rw [List.filter_append, List.filter_cons_of_neg (by simpa using ne), List.filter_nil,
        List.append_nil]
    change Portion.mk _ _ ((router.setQueue other rest).queues subId) _
      (((router.taken ++ [(other, frame)]).filter
        (fun read => decide (read.1 = subId))).map Prod.snd) = _
    rw [waiting, taken]
    rfl

theorem Agrees.reads (agrees : Agrees subId own view) :
    Agrees subId
      (match own.queue with
      | [] => own
      | frame :: rest => { own with queue := rest, taken := own.taken ++ [frame] })
      view.reads := by
  have received := agrees.received
  unfold View.reads
  rw [agrees.waiting]
  cases queue : own.queue with
  | nil => exact agrees
  | cons frame rest =>
      rw [queue] at received
      exact { agrees with
        received := by
          change view.received = view.taken ++ [frame] ++ rest
          rw [received, List.append_assoc, List.singleton_append]
        taken := congrArg (· ++ [frame]) agrees.taken }

theorem Related.read (related : Related subId router view) (other : Nat) :
    Related subId (readQueue router other).2 (if other = subId then view.reads else view) := by
  have kept : Kept (readQueue router other).2 := related.kept.perform (.read other)
  have next : (readQueue router other).2.nextSubId = router.nextSubId := by
    unfold readQueue
    split <;> rfl
  have same : view.reads.next = view.next := by
    unfold View.reads
    split <;> rfl
  by_cases own : other = subId
  · subst own
    rw [if_pos rfl]
    constructor
    case kept => exact kept
    case next => exact same.trans (related.next.trans next.symm)
    case agrees =>
      rw [portion_readQueue]
      exact related.agrees.reads
    case fresh =>
      intro early
      rw [related.fresh (same ▸ early)]
      rfl
  · rw [if_neg own]
    have agrees : Agrees subId (portion subId (readQueue router other).2) view := by
      rw [portion_readQueue_other own]
      exact related.agrees
    exact ⟨kept, related.next.trans next.symm, agrees, related.fresh⟩

theorem Related.perform (related : Related subId router view) (operation : Operation Callback) :
    Related subId (perform router operation) (view.after subId operation) := by
  cases operation with
  | subscribe request => exact related.subscribe request
  | unsubscribe other => exact related.unsubscribe other
  | routeFrame frame elapsedMs => exact related.routeFrame frame elapsedMs
  | restoreCallback other callback => exact related.restoreCallback other callback
  | read other => exact related.read other

theorem related_run (subId : Nat) (history : List (Operation Callback)) :
    Related subId (run history) (FrameRouter.view subId history) := by
  unfold run FrameRouter.view
  have all : ∀ {router : Router Callback} {view : View Callback}, Related subId router view →
      Related subId (history.foldl FrameRouter.perform router)
        (history.foldl (View.after subId) view) := by
    induction history with
    | nil => exact id
    | cons operation rest ih => exact fun related => ih (related.perform operation)
  exact all .initial

end Simulation

section Totals

def Counters.allRouted (counters : Counters) : Nat := counters.totalRouted + counters.routed

theorem Counters.noteRouted_allRouted (counters : Counters) :
    counters.noteRouted.allRouted = counters.allRouted + 1 := by
  unfold noteRouted allRouted
  dsimp only
  split
  · rfl
  · rfl

theorem Counters.noteDropped_allRouted (counters : Counters) :
    counters.noteDropped.allRouted = counters.allRouted := by
  unfold noteDropped allRouted
  dsimp only
  split <;> rfl

theorem dispatch_counters (frame : CanFrame) (elapsedMs : Nat → Rat) (router : Router Callback)
    (sub : Subscription Callback) :
    (dispatch frame elapsedMs router sub).counters.allRouted = router.counters.allRouted := by
  have demoted : ∀ (router : Router Callback) subId, (demote router subId).counters =
      router.counters := by
    intro router subId
    unfold demote
    split <;> rfl
  have invoked : (invoke frame (elapsedMs sub.subId) router sub).counters = router.counters := by
    unfold invoke countTrip
    split
    · rfl
    · dsimp only
      split
      · split
        · exact demoted _ _
        · split
          · exact demoted _ _
          · rfl
      · rfl
  unfold dispatch enqueue
  split
  · split
    · rw [invoked]
    · split
      · exact congrArg Counters.allRouted invoked
      · exact (Counters.noteDropped_allRouted _).trans (congrArg Counters.allRouted invoked)
  · rfl

def Operation.isRoute : Operation Callback → Bool
  | .routeFrame _ _ => true
  | _ => false

end Totals

/-- Every subscriber has from the router what its own view of the history says: the subscription
with its callback until that is demoted or tripped, in its queue what it received and has not taken,
and the calls of its callback. -/
theorem run_views (history : List (Operation Callback)) (subId : Nat) :
    let seen := view subId history
    (run history).subscriptions.get? subId =
        seen.request.map (fun request => seen.subscription request subId) ∧
      (run history).takenBy subId ++ (run history).queues subId = seen.received ∧
      (run history).takenBy subId = seen.taken ∧
      (run history).callsOf subId = seen.calls := by
  have related := related_run subId history
  have agrees := related.agrees
  refine ⟨related.lookup, ?_, agrees.taken.symm, agrees.calls.symm⟩
  exact (agrees.taken ▸ agrees.received).symm

end Ucanlab.FrameRouter
