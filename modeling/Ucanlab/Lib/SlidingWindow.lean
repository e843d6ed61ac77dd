import Mathlib.Data.List.Perm.Subperm

/-!
A sliding window over uniquely numbered, timestamped entries: expired entries
leave at the front, a reservation joins at the back and can be taken back.
-/

namespace SlidingWindow

/-- An entry carries its own identity, so taking it back never removes another. -/
structure Stamp where
  time : Nat
  owner : Nat
  seq : Nat
  deriving DecidableEq, Repr

def expired (width now : Nat) (stamp : Stamp) : Bool := decide (stamp.time + width ≤ now)

def prune (width now : Nat) (stamps : List Stamp) : List Stamp :=
  stamps.dropWhile (expired width now)

theorem expired_mono {width earlier later : Nat} (order : earlier ≤ later) (stamp : Stamp)
    (gone : expired width earlier stamp = true) : expired width later stamp = true := by
  simp only [expired, decide_eq_true_eq] at gone ⊢
  omega

theorem prune_prune {width earlier later : Nat} (order : earlier ≤ later) (stamps : List Stamp) :
    prune width later (prune width earlier stamps) = prune width later stamps := by
  induction stamps with
  | nil => rfl
  | cons stamp rest ih =>
      unfold prune at ih ⊢
      by_cases gone : expired width earlier stamp = true
      · rw [List.dropWhile_cons_of_pos gone, ih,
          List.dropWhile_cons_of_pos (expired_mono order stamp gone)]
      · rw [List.dropWhile_cons_of_neg gone]

theorem mem_of_mem_prune {width now : Nat} {stamps : List Stamp} {stamp : Stamp}
    (member : stamp ∈ prune width now stamps) : stamp ∈ stamps :=
  (List.dropWhile_sublist _).subset member

theorem prune_append_live {width now : Nat} (stamps : List Stamp) (stamp : Stamp)
    (live : expired width now stamp = false) :
    prune width now (stamps ++ [stamp]) = prune width now stamps ++ [stamp] := by
  induction stamps with
  | nil => simp only [prune, List.nil_append, List.dropWhile, live]
  | cons first rest ih =>
      unfold prune at ih ⊢
      by_cases gone : expired width now first = true
      · rw [List.cons_append, List.dropWhile_cons_of_pos gone, ih,
          List.dropWhile_cons_of_pos gone]
      · rw [List.cons_append, List.dropWhile_cons_of_neg gone, List.dropWhile_cons_of_neg gone,
          List.cons_append]

theorem prune_append_live_ne {width now : Nat} (stamps : List Stamp) (stamp : Stamp)
    (live : expired width now stamp = false) :
    prune width now (stamps ++ [stamp]) ≠ prune width now stamps := by
  rw [prune_append_live stamps stamp live]
  intro same
  have lengths := congrArg List.length same
  rw [List.length_append, List.length_singleton] at lengths
  omega

theorem live_at_own_time {width : Nat} (positive : 0 < width) (owner now seq : Nat) :
    expired width now { time := now, owner := owner, seq := seq } = false := by
  simp only [expired, decide_eq_false_iff_not]
  omega

/-- Taking back the entry just reserved restores the window. -/
theorem erase_append_self {stamps : List Stamp} {stamp : Stamp} (fresh : stamp ∉ stamps) :
    (stamps ++ [stamp]).erase stamp = stamps := by
  rw [List.erase_append_right _ fresh, List.erase_cons_head, List.append_nil]

theorem mem_prune_of_live {width now : Nat} {stamps : List Stamp} {stamp : Stamp}
    (member : stamp ∈ stamps) (live : expired width now stamp = false) :
    stamp ∈ prune width now stamps := by
  induction stamps with
  | nil => exact absurd member List.not_mem_nil
  | cons first rest ih =>
      unfold prune at ih ⊢
      by_cases gone : expired width now first = true
      · rw [List.dropWhile_cons_of_pos gone]
        rcases List.mem_cons.mp member with same | later
        · rw [← same, live] at gone
          cases gone
        · exact ih later
      · rw [List.dropWhile_cons_of_neg gone]
        exact member

/-- The entry lies in the half-open window that opens at `start`. -/
def within (width start : Nat) (stamp : Stamp) : Bool :=
  decide (start ≤ stamp.time ∧ stamp.time < start + width)

/-- A history of admitted entries and the window that metered them: what is
still live is in the window, and no window of the history exceeds the limit. -/
structure Metered (width limit now : Nat) (window history : List Stamp) : Prop where
  distinct : history.Nodup
  past : ∀ stamp ∈ history, stamp.time ≤ now
  live : ∀ stamp ∈ history, expired width now stamp = false → stamp ∈ window
  bounded : ∀ start, (history.filter (within width start)).length ≤ limit

namespace Metered

variable {width limit now : Nat} {window history : List Stamp}

theorem nil (width limit now : Nat) (window : List Stamp) : Metered width limit now window [] :=
  ⟨List.nodup_nil, fun _ member => absurd member List.not_mem_nil,
    fun _ member => absurd member List.not_mem_nil, fun _ => Nat.zero_le _⟩

theorem subperm {fewer : List Stamp} (metered : Metered width limit now window history)
    (sub : fewer.Subperm history) : Metered width limit now window fewer := by
  obtain ⟨listed, order, sublist⟩ := sub
  refine ⟨order.nodup_iff.mp (metered.distinct.sublist sublist),
    fun stamp member => metered.past stamp (sublist.subset (order.symm.subset member)),
    fun stamp member => metered.live stamp (sublist.subset (order.symm.subset member)), ?_⟩
  intro start
  rw [← (order.filter _).length_eq]
  exact Nat.le_trans (sublist.filter _).length_le (metered.bounded start)

theorem elapse {later : Nat} {after : List Stamp}
    (metered : Metered width limit now window history) (order : now ≤ later)
    (kept : ∀ stamp ∈ history, expired width later stamp = false → stamp ∈ window →
      stamp ∈ after) : Metered width limit later after history := by
  refine ⟨metered.distinct, fun stamp member => Nat.le_trans (metered.past stamp member) order,
    ?_, metered.bounded⟩
  intro stamp member alive
  apply kept stamp member alive
  apply metered.live stamp member
  exact Bool.eq_false_iff.mpr (fun gone =>
    Bool.eq_false_iff.mp alive (expired_mono order stamp gone))

/-- An entry admitted while the pruned window had room: the windows it falls
into hold nothing but live entries. -/
theorem accept {stamp : Stamp} {after : List Stamp}
    (metered : Metered width limit now window history) (order : now ≤ stamp.time)
    (fresh : stamp ∉ history)
    (room : (prune width stamp.time window).length < limit)
    (kept : ∀ other ∈ prune width stamp.time window, other ∈ after)
    (joined : stamp ∈ after) : Metered width limit stamp.time after (stamp :: history) := by
  have survivors : Metered width limit stamp.time (prune width stamp.time window) history :=
    metered.elapse order (fun _ _ alive member => mem_prune_of_live member alive)
  refine ⟨List.nodup_cons.mpr ⟨fresh, metered.distinct⟩, ?_, ?_, ?_⟩
  · intro other member
    rcases List.mem_cons.mp member with same | old
    · exact Nat.le_of_eq (congrArg Stamp.time same)
    · exact survivors.past other old
  · intro other member alive
    rcases List.mem_cons.mp member with same | old
    · rw [same]
      exact joined
    · exact kept other (survivors.live other old alive)
  · intro start
    cases hit : within width start stamp with
    | false =>
        rw [List.filter_cons_of_neg (Bool.eq_false_iff.mp hit)]
        exact metered.bounded start
    | true =>
        rw [List.filter_cons_of_pos hit, List.length_cons]
        simp only [within, decide_eq_true_eq] at hit
        have inside : (history.filter (within width start)).Subperm
            (prune width stamp.time window) := by
          apply List.subperm_of_subset (metered.distinct.filter _)
          intro other member
          obtain ⟨old, near⟩ := List.mem_filter.mp member
          simp only [within, decide_eq_true_eq] at near
          apply survivors.live other old
          simp only [expired, decide_eq_false_iff_not]
          omega
        have few := inside.length_le
        omega

end Metered

def NumberedUpTo (last : Nat) (stamps : List Stamp) : Prop :=
  ∀ stamp ∈ stamps, stamp.seq ≤ last

theorem NumberedUpTo.nil (last : Nat) : NumberedUpTo last [] :=
  fun _ member => absurd member List.not_mem_nil

theorem NumberedUpTo.fresh {last : Nat} {stamps : List Stamp} (numbered : NumberedUpTo last stamps)
    {stamp : Stamp} (next : last < stamp.seq) : stamp ∉ stamps := by
  intro member
  have bounded := numbered stamp member
  omega

theorem NumberedUpTo.prune {last width now : Nat} {stamps : List Stamp}
    (numbered : NumberedUpTo last stamps) :
    NumberedUpTo last (SlidingWindow.prune width now stamps) :=
  fun stamp member => numbered stamp (mem_of_mem_prune member)

theorem NumberedUpTo.append {last next : Nat} {stamps : List Stamp}
    (numbered : NumberedUpTo last stamps) (order : last ≤ next) {stamp : Stamp}
    (bounded : stamp.seq ≤ next) : NumberedUpTo next (stamps ++ [stamp]) := by
  intro other member
  rcases List.mem_append.mp member with old | new
  · exact Nat.le_trans (numbered other old) order
  · rw [List.mem_singleton.mp new]
    exact bounded

theorem NumberedUpTo.mono {last next : Nat} {stamps : List Stamp}
    (numbered : NumberedUpTo last stamps) (order : last ≤ next) : NumberedUpTo next stamps :=
  fun stamp member => Nat.le_trans (numbered stamp member) order

theorem NumberedUpTo.erase {last : Nat} {stamps : List Stamp}
    (numbered : NumberedUpTo last stamps) (stamp : Stamp) :
    NumberedUpTo last (stamps.erase stamp) :=
  fun other member => numbered other (List.mem_of_mem_erase member)

end SlidingWindow

/-!
Readings of a clock in their order, and how many of them a window of time holds. The readings that
a limiter no longer counts are a front part of all of them.
-/

namespace WindowCount

/-- The window that opens at `start`, its end left out. -/
def within (width start time : Nat) : Bool := decide (start ≤ time ∧ time < start + width)

def Bounded (width limit : Nat) (times : List Nat) : Prop :=
  ∀ start, (times.filter (within width start)).length ≤ limit

def recent (width now : Nat) (times : List Nat) : List Nat :=
  times.filter (fun time => decide (now < time + width))

variable {width limit now : Nat} {times fewer : List Nat}

theorem Bounded.nil : Bounded width limit [] := fun _ => Nat.zero_le _

theorem Bounded.sublist (bounded : Bounded width limit times) (part : fewer.Sublist times) :
    Bounded width limit fewer :=
  fun start => Nat.le_trans (part.filter _).length_le (bounded start)

theorem recent_append (front back : List Nat) :
    recent width now (front ++ back) = recent width now front ++ recent width now back :=
  List.filter_append ..

theorem recent_eq_self (fresh : ∀ time ∈ times, now < time + width) :
    recent width now times = times :=
  List.filter_eq_self.mpr (fun time member => decide_eq_true (fresh time member))

theorem dropWhile_recent (order : times.Pairwise (· ≤ ·)) (past : ∀ time ∈ times, time ≤ now) :
    ∀ time ∈ times.dropWhile (fun time => decide (now - time ≥ width)), now < time + width := by
  induction times with
  | nil => exact fun _ absent => absurd absent List.not_mem_nil
  | cons first rest ih =>
      obtain ⟨least, ordered⟩ := List.pairwise_cons.mp order
      have firstPast := past first List.mem_cons_self
      rw [List.dropWhile_cons]
      by_cases old : now - first ≥ width
      · rw [if_pos (decide_eq_true old)]
        exact ih ordered (fun time member => past time (List.mem_cons_of_mem first member))
      · rw [if_neg (fun gone => old (of_decide_eq_true gone))]
        intro time member
        rcases List.mem_cons.mp member with same | later
        · omega
        · have after := least time later
          omega

theorem recent_length_split {kept : Nat}
    (fresh : ∀ time ∈ times.drop (times.length - kept), now < time + width)
    (part : kept ≤ times.length) :
    (recent width now times).length =
      (recent width now (times.take (times.length - kept))).length + kept := by
  have split : recent width now times = recent width now (times.take (times.length - kept)) ++
      times.drop (times.length - kept) := by
    rw [← recent_eq_self fresh, ← recent_append, List.take_append_drop]
  rw [split, List.length_append, List.length_drop]
  omega

/-- The window that ends with a reading decides about the reading. -/
theorem bounded_append_iff (past : ∀ time ∈ times, time ≤ now) (positive : 0 < width)
    (bounded : Bounded width limit times) :
    Bounded width limit (times ++ [now]) ↔ (recent width now times).length < limit := by
  constructor
  · intro longer
    have ending := longer (now + 1 - width)
    have last : within width (now + 1 - width) now = true := by
      refine decide_eq_true ?_
      omega
    have same : times.filter (within width (now + 1 - width)) = recent width now times := by
      refine List.filter_congr ?_
      intro time member
      have order := past time member
      refine decide_eq_decide.mpr ?_
      omega
    rw [List.filter_append, same, List.filter_cons_of_pos last, List.filter_nil,
      List.length_append, List.length_singleton] at ending
    omega
  · intro room start
    rw [List.filter_append, List.length_append]
    cases last : within width start now with
    | false =>
        rw [List.filter_cons_of_neg (Bool.eq_false_iff.mp last), List.filter_nil]
        exact bounded start
    | true =>
        have inside := of_decide_eq_true last
        have part : (times.filter (within width start)).Sublist (recent width now times) := by
          refine List.monotone_filter_right times ?_
          intro time near
          have bounds := of_decide_eq_true near
          refine decide_eq_true ?_
          omega
        have few := part.length_le
        rw [List.filter_cons_of_pos last, List.filter_nil, List.length_singleton]
        omega

end WindowCount
