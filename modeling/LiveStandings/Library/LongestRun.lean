/-
The longest run of items that satisfy a predicate, the earliest one of several
that are equally long, and the single pass that finds it.
-/
import Mathlib.Data.List.Infix
import Mathlib.Data.List.TakeWhile

namespace LongestRun

universe u

variable {A : Type u} (p : A → Prop)

/-- `run` stands in `list` right after `before`, and `p` holds of all of it. -/
structure RunAt (list before run : List A) : Prop where
  within : before ++ run <+: list
  all : ∀ item ∈ run, p item

/-- No run is longer, and none that is as long stands earlier. -/
structure Longest (list before run : List A) : Prop
    extends RunAt p list before run where
  longest : ∀ before' run', RunAt p list before' run' →
    run'.length ≤ run.length
  first : ∀ before' run', RunAt p list before' run' →
    run'.length = run.length → before.length ≤ before'.length

variable {p}

theorem runAt_nil (list : List A) : RunAt p list [] [] :=
  ⟨List.nil_prefix, by simp⟩

/-- A run of a longer list ends before its last item or with it. -/
theorem RunAt.of_concat {list before run : List A} {item : A}
    (hrun : RunAt p (list ++ [item]) before run) :
    RunAt p list before run ∨ before ++ run = list ++ [item] := by
  rcases List.prefix_concat_iff.mp hrun.within with hwhole | hwithin
  · exact Or.inr hwhole
  · exact Or.inl ⟨hwithin, hrun.all⟩

theorem RunAt.concat {list before run : List A} (item : A)
    (hrun : RunAt p list before run) : RunAt p (list ++ [item]) before run :=
  ⟨hrun.within.trans (List.prefix_append list [item]), hrun.all⟩

theorem RunAt.length_le {list before run : List A}
    (hrun : RunAt p list before run) :
    before.length + run.length ≤ list.length := by
  simpa using hrun.within.length_le

/-- `run` is the longest run at the end of `list`. -/
structure Trailing (p : A → Prop) (list before run : List A) : Prop where
  split : list = before ++ run
  all : ∀ item ∈ run, p item
  maximal : ∀ before' run', list = before' ++ run' →
    (∀ item ∈ run', p item) → run'.length ≤ run.length

theorem Trailing.runAt {list before run : List A}
    (hend : Trailing p list before run) : RunAt p list before run :=
  ⟨hend.split ▸ List.prefix_refl _, hend.all⟩

/-- An item of `p` makes the run at the end longer. -/
theorem Trailing.concat {list before run : List A} {item : A}
    (hend : Trailing p list before run) (hitem : p item) :
    Trailing p (list ++ [item]) before (run ++ [item]) := by
  refine ⟨by rw [hend.split, List.append_assoc], ?_, ?_⟩
  · intro later hlater
    rcases List.mem_append.mp hlater with hmem | hlast
    · exact hend.all later hmem
    · exact List.mem_singleton.mp hlast ▸ hitem
  · intro before' run' hsplit hall
    rcases List.eq_nil_or_concat' run' with rfl | ⟨earlier, last, rfl⟩
    · simp
    · rw [← List.append_assoc] at hsplit
      obtain ⟨hlist, _⟩ := List.append_inj' hsplit rfl
      have hle := hend.maximal before' earlier hlist
        fun item hmem => hall item (List.mem_append_left _ hmem)
      simpa using hle

/-- After an item outside `p` no run is left at the end. -/
theorem trailing_of_not (list : List A) {item : A} (hitem : ¬p item) :
    Trailing p (list ++ [item]) (list ++ [item]) [] := by
  refine ⟨by simp, by simp, ?_⟩
  intro before run hsplit hall
  rcases List.eq_nil_or_concat' run with rfl | ⟨earlier, last, rfl⟩
  · simp
  · rw [← List.append_assoc] at hsplit
    obtain ⟨_, hlast⟩ := List.append_inj' hsplit rfl
    obtain rfl : item = last := by simpa using hlast
    exact absurd (hall item (by simp)) hitem

/-- A run at the end that passes the longest one so far takes its place. -/
theorem Longest.pass {list before best before' run : List A} {item : A}
    (hbest : Longest p list before best)
    (hend : Trailing p (list ++ [item]) before' run)
    (hpass : best.length < run.length) :
    Longest p (list ++ [item]) before' run := by
  refine ⟨hend.runAt, ?_, ?_⟩
  · intro earlier other hother
    rcases hother.of_concat with hwithin | hwhole
    · exact (hbest.longest earlier other hwithin).trans hpass.le
    · exact hend.maximal earlier other hwhole.symm hother.all
  · intro earlier other hother hlength
    rcases hother.of_concat with hwithin | hwhole
    · have hle := hbest.longest earlier other hwithin
      omega
    · have htotal := congrArg List.length (hwhole.trans hend.split)
      simp only [List.length_append] at htotal
      omega

/-- Otherwise the longest one stays. -/
theorem Longest.keep {list before best before' run : List A} {item : A}
    (hbest : Longest p list before best)
    (hend : Trailing p (list ++ [item]) before' run)
    (hkeep : run.length ≤ best.length) :
    Longest p (list ++ [item]) before best := by
  refine ⟨hbest.toRunAt.concat item, ?_, ?_⟩
  · intro earlier other hother
    rcases hother.of_concat with hwithin | hwhole
    · exact hbest.longest earlier other hwithin
    · exact (hend.maximal earlier other hwhole.symm hother.all).trans hkeep
  · intro earlier other hother hlength
    rcases hother.of_concat with hwithin | hwhole
    · exact hbest.first earlier other hwithin hlength
    · have hroom := hbest.toRunAt.length_le
      have htotal := congrArg List.length hwhole
      simp only [List.length_append, List.length_singleton] at htotal
      omega

/-- The longest run met so far and the one that is still open. -/
structure Scan (A : Type u) where
  best : List A
  current : List A

variable (p) [DecidablePred p]

/-- Take one item. -/
def Scan.push (scan : Scan A) (item : A) : Scan A :=
  if p item then
    { best :=
        if scan.best.length < scan.current.length + 1 then
          scan.current ++ [item]
        else scan.best
      current := scan.current ++ [item] }
  else { scan with current := [] }

/-- One pass over `list`. -/
def scan (list : List A) : Scan A :=
  list.foldl (Scan.push p) ⟨[], []⟩

/-- What a pass knows of the items it has met. -/
structure Scan.Knows (scan : Scan A) (met : List A) : Prop where
  current : ∃ before, Trailing p met before scan.current
  best : ∃ before, Longest p met before scan.best

variable {p}

theorem Scan.Knows.push {scan : Scan A} {met : List A}
    (hknows : scan.Knows p met) (item : A) :
    (scan.push p item).Knows p (met ++ [item]) := by
  obtain ⟨done, hcurrent⟩ := hknows.current
  obtain ⟨before, hbest⟩ := hknows.best
  by_cases hitem : p item
  · have hlonger := hcurrent.concat hitem
    rw [Scan.push, if_pos hitem]
    refine ⟨⟨done, hlonger⟩, ?_⟩
    by_cases hpass : scan.best.length < scan.current.length + 1
    · rw [if_pos hpass]
      exact ⟨done, hbest.pass hlonger (by simpa using hpass)⟩
    · rw [if_neg hpass]
      exact ⟨before, hbest.keep hlonger (by simpa using hpass)⟩
  · have hclosed := trailing_of_not met hitem
    rw [Scan.push, if_neg hitem]
    exact ⟨⟨_, hclosed⟩, before, hbest.keep hclosed (Nat.zero_le _)⟩

theorem knows_scan (list : List A) : (scan p list).Knows p list := by
  induction list using List.reverseRecOn with
  | nil =>
      refine ⟨⟨[], rfl, by simp [scan], ?_⟩, [], runAt_nil [], ?_, by simp⟩
      · intro before run hsplit _
        simp [(List.append_eq_nil_iff.mp hsplit.symm).2]
      · intro before run hrun
        have hle := hrun.length_le
        simp only [List.length_nil] at hle
        omega
  | append_singleton met item ih =>
      rw [scan, List.foldl_concat]
      exact ih.push item

/-- The pass finds the longest run. -/
theorem longest_scan (list : List A) :
    ∃ before, Longest p list before (scan p list).best :=
  (knows_scan list).best

/-- The run at the start is a run. -/
theorem runAt_takeWhile (list : List A) :
    RunAt p list [] (list.takeWhile p) :=
  ⟨List.takeWhile_prefix _, fun item hitem => by
    simpa using List.mem_takeWhile_imp (p := fun item => decide (p item)) hitem⟩

/-- A run is no longer than `p` holds often. -/
theorem RunAt.length_le_countP {list before run : List A}
    (hrun : RunAt p list before run) : run.length ≤ list.countP p := by
  have hall : run.countP (fun item => decide (p item)) = run.length :=
    List.countP_eq_length.mpr fun item hitem => by simpa using hrun.all item hitem
  have hsub : run.Sublist list :=
    (List.sublist_append_right before run).trans hrun.within.sublist
  exact hall ▸ hsub.countP_le

end LongestRun
