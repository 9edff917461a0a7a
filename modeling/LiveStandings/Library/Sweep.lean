/-
Sweeping a time axis.  A cursor walks through stamped events as the time goes
on and pushes each of them once.  Over events in time order, what it has pushed
by a time is what was stamped by then, whatever the times it stopped at.
-/
import Mathlib.Data.List.Basic
import Mathlib.Order.Lattice

namespace Sweep

universe u v w

variable {T : Type u} {V : Type v} {S : Type w} [LinearOrder T]

/-- Push the events stamped by `time` and keep the rest for later. -/
def advanceTo (push : S → T × V → S) (time : T) :
    S → List (T × V) → S × List (T × V)
  | state, [] => (state, [])
  | state, event :: rest =>
      if event.1 ≤ time then advanceTo push time (push state event) rest
      else (state, event :: rest)

/-- The events stamped by `time`. -/
def upTo (time : T) (events : List (T × V)) : List (T × V) :=
  events.filter (·.1 ≤ time)

/-- The events stamped later. -/
def after (time : T) (events : List (T × V)) : List (T × V) :=
  events.filter (time < ·.1)

/-- Events in the order of their stamps. -/
def InOrder (events : List (T × V)) : Prop :=
  events.Pairwise fun left right => left.1 ≤ right.1

theorem mem_upTo {time : T} {events : List (T × V)} {event : T × V} :
    event ∈ upTo time events ↔ event ∈ events ∧ event.1 ≤ time := by
  simp [upTo]

theorem upTo_subset {time time' : T} (hle : time ≤ time')
    (events : List (T × V)) : upTo time events ⊆ upTo time' events := by
  intro event hevent
  obtain ⟨hmem, hby⟩ := mem_upTo.mp hevent
  exact mem_upTo.mpr ⟨hmem, hby.trans hle⟩

theorem InOrder.after {events : List (T × V)} (horder : InOrder events)
    (time : T) : InOrder (after time events) :=
  List.Pairwise.sublist List.filter_sublist horder

/-- The first of events in order comes first. -/
theorem InOrder.head_le {event : T × V} {rest : List (T × V)}
    (horder : InOrder (event :: rest)) {found : T × V}
    (hfound : found ∈ event :: rest) : event.1 ≤ found.1 := by
  rcases List.mem_cons.mp hfound with rfl | htail
  · exact le_refl _
  · exact (List.pairwise_cons.mp horder).1 found htail

/-- The last of events in order comes last. -/
theorem InOrder.le_last {events : List (T × V)} (horder : InOrder events)
    {last : T × V} (hlast : events.getLast? = some last) :
    ∀ event ∈ events, event.1 ≤ last.1 := by
  obtain ⟨earlier, rfl⟩ := List.getLast?_eq_some_iff.mp hlast
  intro event hevent
  rcases List.mem_append.mp hevent with hmem | hmem
  · exact (List.pairwise_append.mp horder).2.2 event hmem last (by simp)
  · exact le_of_eq (by rw [List.mem_singleton.mp hmem])

theorem upTo_eq_nil_of_later {time : T} {event : T × V}
    {rest : List (T × V)} (horder : InOrder (event :: rest))
    (hlater : time < event.1) : upTo time (event :: rest) = [] := by
  apply List.filter_eq_nil_iff.mpr
  intro found hfound
  simpa using lt_of_lt_of_le hlater (horder.head_le hfound)

theorem after_eq_self_of_later {time : T} {event : T × V}
    {rest : List (T × V)} (horder : InOrder (event :: rest))
    (hlater : time < event.1) :
    after time (event :: rest) = event :: rest := by
  apply List.filter_eq_self.mpr
  intro found hfound
  simpa using lt_of_lt_of_le hlater (horder.head_le hfound)

/-- One move of the cursor pushes exactly what is stamped by the new time. -/
theorem advanceTo_eq (push : S → T × V → S) (time : T) (state : S)
    {events : List (T × V)} (horder : InOrder events) :
    advanceTo push time state events =
      ((upTo time events).foldl push state, after time events) := by
  induction events generalizing state with
  | nil => rfl
  | cons event rest ih =>
      by_cases hle : event.1 ≤ time
      · rw [advanceTo, if_pos hle, ih _ (List.pairwise_cons.mp horder).2]
        simp [upTo, after, hle]
      · have hlater := not_le.mp hle
        rw [advanceTo, if_neg hle, upTo_eq_nil_of_later horder hlater,
          after_eq_self_of_later horder hlater]
        rfl

/-- Where the cursor has stopped before, a later move takes up. -/
theorem upTo_append_after {time time' : T} (hle : time ≤ time')
    {events : List (T × V)} (horder : InOrder events) :
    upTo time events ++ upTo time' (after time events) =
      upTo time' events := by
  induction events with
  | nil => rfl
  | cons event rest ih =>
      by_cases hby : event.1 ≤ time
      · have hrest := ih (List.pairwise_cons.mp horder).2
        simp only [upTo, after, List.filter_cons, hby, hby.trans hle,
          not_lt.mpr hby, decide_true, decide_false, Bool.false_eq_true,
          ↓reduceIte, List.cons_append] at hrest ⊢
        rw [hrest]
      · have hlater := not_le.mp hby
        rw [upTo_eq_nil_of_later horder hlater,
          after_eq_self_of_later horder hlater, List.nil_append]

theorem after_after {time time' : T} (hle : time ≤ time')
    (events : List (T × V)) : after time' (after time events) =
      after time' events := by
  unfold after
  rw [List.filter_filter]
  apply List.filter_congr
  intro event _
  by_cases hlater : time' < event.1
  · simp [hlater, lt_of_le_of_lt hle hlater]
  · simp [hlater]

/-- The cursor's state at a time depends on that time alone. -/
theorem advanceTo_after (push : S → T × V → S) {time time' : T}
    (hle : time ≤ time') (init : S) {events : List (T × V)}
    (horder : InOrder events) :
    advanceTo push time' ((upTo time events).foldl push init)
        (after time events) =
      ((upTo time' events).foldl push init, after time' events) := by
  rw [advanceTo_eq push time' _ (horder.after time), ← List.foldl_append,
    upTo_append_after hle horder, after_after hle]

/-- Once every event has been met the whole list has been pushed. -/
theorem upTo_eq_self {time : T} {events : List (T × V)}
    (hall : ∀ event ∈ events, event.1 ≤ time) : upTo time events = events := by
  apply List.filter_eq_self.mpr
  intro event hevent
  simpa using hall event hevent

/-! Frames are recorded when they are due, when what they show has changed, and
at the end. -/

section Record

variable {F : Type u} {K : Type v} [DecidableEq K]

/-- The recorded frames, `shown` being what the last recorded one shows. -/
def record (due : F → Bool) (shows : F → K) : Option K → List F → List F
  | _, [] => []
  | shown, frame :: rest =>
      if due frame || shown ≠ some (shows frame) || rest.isEmpty then
        frame :: record due shows (some (shows frame)) rest
      else record due shows shown rest

theorem record_sublist (due : F → Bool) (shows : F → K) (shown : Option K)
    (frames : List F) : (record due shows shown frames).Sublist frames := by
  induction frames generalizing shown with
  | nil => exact .slnil
  | cons frame rest ih =>
      unfold record
      split
      · exact (ih _).cons_cons frame
      · exact (ih _).cons frame

/-- The last frame is always recorded. -/
theorem getLast?_record (due : F → Bool) (shows : F → K) (shown : Option K)
    (frames : List F) :
    (record due shows shown frames).getLast? = frames.getLast? := by
  induction frames generalizing shown with
  | nil => rfl
  | cons frame rest ih =>
      cases rest with
      | nil => simp [record]
      | cons next rest =>
          unfold record
          split
          · rw [List.getLast?_cons, ih]
            exact List.getLast?_cons.symm
          · rw [ih, List.getLast?_cons_cons]

/-- A recorded frame is due, or the last one, or shows something else than the
recorded frame before it. -/
theorem record_reason (due : F → Bool) (shows : F → K) {shown : Option K}
    {frames earlier later : List F} {frame : F}
    (hrecord : record due shows shown frames = earlier ++ frame :: later) :
    due frame ∨ frames.getLast? = some frame ∨
      (earlier.getLast?.map shows).or shown ≠ some (shows frame) := by
  induction frames generalizing shown earlier with
  | nil => simp [record] at hrecord
  | cons head rest ih =>
      have hlast : rest ≠ [] → (head :: rest).getLast? = rest.getLast? := by
        intro hrest
        rw [List.getLast?_cons, List.getLast?_eq_some_getLast hrest]
        rfl
      unfold record at hrecord
      split at hrecord
      · next hwhy =>
          cases earlier with
          | nil =>
              obtain ⟨rfl, _⟩ := List.cons_eq_cons.mp hrecord
              rw [Bool.or_eq_true, Bool.or_eq_true, decide_eq_true_eq] at hwhy
              rcases hwhy with (hdue | hnew) | hend
              · exact Or.inl hdue
              · exact Or.inr (Or.inr hnew)
              · rw [List.isEmpty_iff.mp hend]
                exact Or.inr (Or.inl rfl)
          | cons first earlier =>
              obtain ⟨rfl, hrest⟩ := List.cons_eq_cons.mp hrecord
              have hne : rest ≠ [] := by
                rintro rfl
                simp [record] at hrest
              rw [hlast hne]
              rcases ih hrest with hdue | hend | hnew
              · exact Or.inl hdue
              · exact Or.inr (Or.inl hend)
              · right
                right
                rw [List.getLast?_cons]
                cases hprev : earlier.getLast? with
                | none => simpa [hprev] using hnew
                | some prev => simpa [hprev] using hnew
      · next hskip =>
          have hne : rest ≠ [] := by
            rintro rfl
            simp at hskip
          rw [hlast hne]
          exact ih hrecord

/-- Recording loses nothing: at the time of every frame, the latest recorded
one by then shows what the frame shows. -/
theorem record_lossless (due : F → Bool) (shows : F → K) (time : F → T)
    {frames : List F}
    (hsorted : frames.Pairwise fun left right => time left < time right)
    (shown : Option K) :
    ∀ frame ∈ frames,
      (((record due shows shown frames).filter
        (time · ≤ time frame)).getLast?.map shows).or shown =
          some (shows frame) := by
  induction frames generalizing shown with
  | nil => simp
  | cons head rest ih =>
      obtain ⟨hhead, hrest⟩ := List.pairwise_cons.mp hsorted
      -- at the time of the first frame, no later one is recorded yet
      have hlater : ∀ shown, (record due shows shown rest).filter
          (time · ≤ time head) = [] := by
        intro shown
        rw [List.filter_eq_nil_iff]
        intro kept hkept
        have hlt := hhead kept ((record_sublist due shows shown rest).subset hkept)
        simpa using hlt
      intro frame hframe
      unfold record
      split
      · rcases List.mem_cons.mp hframe with rfl | hmem
        · rw [List.filter_cons_of_pos (by simp), hlater]
          simp
        · have hle := (hhead frame hmem).le
          have hkept := ih hrest (some (shows head)) frame hmem
          rw [List.filter_cons_of_pos (by simpa using hle), List.getLast?_cons]
          revert hkept
          cases ((record due shows (some (shows head)) rest).filter
            (time · ≤ time frame)).getLast? with
          | none => simp
          | some kept => simp
      · next hskip =>
          rcases List.mem_cons.mp hframe with rfl | hmem
          · rw [hlater]
            simp only [Bool.or_eq_true, decide_eq_true_eq, not_or,
              not_not] at hskip
            exact hskip.1.2
          · exact ih hrest shown frame hmem

end Record

end Sweep
