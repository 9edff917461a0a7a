/-
The event stream format.  An event source reads its stream character by
character: a line sets a field or is a comment, an empty line dispatches what
was collected.  However much of a stream of whole frames it has received, it
has dispatched exactly the messages of the frames that are complete.
-/
import Mathlib.Data.List.Infix

namespace EventStream

/-- What an event source hands on. -/
structure Message where
  event : List Char
  data : List Char
deriving Repr, DecidableEq

/-- An event source between two characters. -/
structure Source where
  line : List Char
  afterReturn : Bool
  event : List Char
  data : List Char
  dispatched : List Message
deriving Repr, DecidableEq

/-- A source that has received nothing. -/
def Source.start : Source := ⟨[], false, [], [], []⟩

/-- An empty line: what was collected is dispatched, if there is any data. -/
def Source.dispatch (source : Source) : Source :=
  { source with
    event := []
    data := []
    dispatched :=
      if source.data = [] then source.dispatched
      else source.dispatched ++ [{
        event :=
          if source.event = [] then ['m', 'e', 's', 's', 'a', 'g', 'e']
          else source.event
        data := source.data.dropLast }] }

/-- A field of the message that is being collected. -/
def Source.setField (source : Source) (name value : List Char) : Source :=
  if name = ['e', 'v', 'e', 'n', 't'] then { source with event := value }
  else if name = ['d', 'a', 't', 'a'] then
    { source with data := source.data ++ value ++ ['\n'] }
  else source

/-- One blank after the colon belongs to neither name nor value. -/
def fieldValue : List Char → List Char
  | ':' :: ' ' :: value => value
  | ':' :: value => value
  | _ => []

/-- A line that has ended, with its characters. -/
def Source.take (source : Source) : List Char → Source
  | [] => source.dispatch
  | ':' :: _ => source
  | line =>
      source.setField (line.takeWhile (· ≠ ':'))
        (fieldValue (line.dropWhile (· ≠ ':')))

def Source.endLine (source : Source) : Source :=
  Source.take { source with line := [] } source.line

/-- A line ends with a line feed, a carriage return, or both. -/
def Source.push (source : Source) (c : Char) : Source :=
  if c = '\n' then
    if source.afterReturn then { source with afterReturn := false }
    else source.endLine
  else if c = '\r' then { source.endLine with afterReturn := true }
  else { source with line := source.line ++ [c], afterReturn := false }

def Source.feed (source : Source) (text : List Char) : Source :=
  text.foldl Source.push source

/-- The lines of a frame: none is empty or holds a line break. -/
structure Frame where
  lines : List (List Char)
  nonempty : ∀ line ∈ lines, line ≠ []
  unbroken : ∀ line ∈ lines, ∀ c ∈ line, c ≠ '\n' ∧ c ≠ '\r'

/-- The text of a frame, without the empty line that ends it. -/
def Frame.body (frame : Frame) : List Char :=
  frame.lines.flatMap (· ++ ['\n'])

def Frame.render (frame : Frame) : List Char := frame.body ++ ['\n']

/-- The message of a frame. -/
def Frame.messages (frame : Frame) : List Message :=
  (frame.lines.foldl Source.take Source.start).dispatch.dispatched

/-- A source that is not within a line. -/
structure Source.AtLine (source : Source) : Prop where
  line : source.line = []
  afterReturn : source.afterReturn = false

/-- A source that is not within a frame. -/
structure Source.Ready (source : Source) : Prop extends source.AtLine where
  event : source.event = []
  data : source.data = []

/-- A part of two texts ends in the first, or in the second. -/
theorem prefix_append_cases {A : Type} {part first second : List A}
    (hpart : part <+: first ++ second) :
    part <+: first ∨ ∃ rest, part = first ++ rest ∧ rest <+: second := by
  rcases List.prefix_or_prefix_of_prefix hpart
    (List.prefix_append first second) with hwithin | ⟨rest, rfl⟩
  · exact Or.inl hwithin
  · exact Or.inr ⟨rest, rfl, (List.prefix_append_right_inj first).mp hpart⟩

section Lines

variable {source : Source}

theorem feed_append (source : Source) (text text' : List Char) :
    source.feed (text ++ text') = (source.feed text).feed text' :=
  List.foldl_append

/-- Characters that break no line are collected. -/
theorem feed_unbroken (hreturn : source.afterReturn = false)
    {text : List Char} (htext : ∀ c ∈ text, c ≠ '\n' ∧ c ≠ '\r') :
    source.feed text = { source with line := source.line ++ text } := by
  induction text generalizing source with
  | nil => simp [Source.feed]
  | cons c text ih =>
      obtain ⟨hfeed, hbreak⟩ := htext c List.mem_cons_self
      have hpush : source.push c =
          { source with line := source.line ++ [c], afterReturn := false } := by
        rw [Source.push, if_neg hfeed, if_neg hbreak]
      have htail := @ih (source.push c) (by rw [hpush])
        fun d hd => htext d (List.mem_cons_of_mem _ hd)
      rw [Source.feed, List.foldl_cons, ← Source.feed, htail, hpush, ← hreturn]
      simp

/-- A whole line is taken. -/
theorem feed_line (hsource : source.AtLine) {line : List Char}
    (hline : ∀ c ∈ line, c ≠ '\n' ∧ c ≠ '\r') :
    source.feed (line ++ ['\n']) = source.take line := by
  obtain ⟨before, afterReturn, event, data, dispatched⟩ := source
  obtain ⟨rfl, rfl⟩ := hsource
  rw [feed_append, feed_unbroken rfl hline]
  rfl

theorem take_atLine (hsource : source.AtLine) (line : List Char) :
    (source.take line).AtLine := by
  unfold Source.take
  split
  · exact ⟨hsource.line, hsource.afterReturn⟩
  · exact hsource
  · unfold Source.setField
    split
    · exact ⟨hsource.line, hsource.afterReturn⟩
    · split
      · exact ⟨hsource.line, hsource.afterReturn⟩
      · exact hsource

/-- Only an empty line dispatches. -/
theorem dispatched_take {line : List Char} (hline : line ≠ []) :
    (source.take line).dispatched = source.dispatched := by
  unfold Source.take
  split
  · exact absurd rfl hline
  · rfl
  · unfold Source.setField
    split
    · rfl
    · split <;> rfl

/-- What was dispatched before plays no part in taking a line. -/
theorem take_dispatched (line : List Char) (hline : line ≠ [])
    (messages : List Message) :
    Source.take { source with dispatched := messages } line =
      { source.take line with dispatched := messages } := by
  unfold Source.take
  split
  · exact absurd rfl hline
  · rfl
  · unfold Source.setField
    split
    · rfl
    · split <;> rfl

theorem dispatch_ready (hsource : source.AtLine) : source.dispatch.Ready :=
  ⟨⟨hsource.line, hsource.afterReturn⟩, rfl, rfl⟩

/-- A source that is ready differs from a new one in what it dispatched. -/
theorem Source.Ready.eq (hsource : source.Ready) :
    source = { Source.start with dispatched := source.dispatched } := by
  obtain ⟨line, afterReturn, event, data, dispatched⟩ := source
  obtain ⟨⟨rfl, rfl⟩, rfl, rfl⟩ := hsource
  rfl

theorem foldl_take_atLine (hsource : source.AtLine)
    (lines : List (List Char)) : (lines.foldl Source.take source).AtLine := by
  induction lines generalizing source with
  | nil => exact hsource
  | cons line lines ih => exact ih (take_atLine hsource line)

theorem foldl_take_dispatched {lines : List (List Char)}
    (hlines : ∀ line ∈ lines, line ≠ []) (messages : List Message) :
    lines.foldl Source.take { source with dispatched := messages } =
      { lines.foldl Source.take source with dispatched := messages } := by
  induction lines generalizing source with
  | nil => rfl
  | cons line lines ih =>
      rw [List.foldl_cons, List.foldl_cons,
        take_dispatched line (hlines line List.mem_cons_self)]
      exact ih fun other hother => hlines other (List.mem_cons_of_mem _ hother)

/-- Whole lines are taken one after the other. -/
theorem feed_lines (hsource : source.AtLine) {lines : List (List Char)}
    (hlines : ∀ line ∈ lines, ∀ c ∈ line, c ≠ '\n' ∧ c ≠ '\r') :
    source.feed (lines.flatMap (· ++ ['\n'])) =
      lines.foldl Source.take source := by
  induction lines generalizing source with
  | nil => rfl
  | cons line lines ih =>
      rw [List.flatMap_cons, feed_append,
        feed_line hsource (hlines line List.mem_cons_self), List.foldl_cons]
      exact ih (take_atLine hsource line) fun other hother =>
        hlines other (List.mem_cons_of_mem _ hother)

/-- Within the lines of a frame nothing is dispatched. -/
theorem dispatched_feed_prefix (hsource : source.AtLine)
    {lines : List (List Char)} (hne : ∀ line ∈ lines, line ≠ [])
    (hlines : ∀ line ∈ lines, ∀ c ∈ line, c ≠ '\n' ∧ c ≠ '\r')
    {part : List Char} (hpart : part <+: lines.flatMap (· ++ ['\n'])) :
    (source.feed part).dispatched = source.dispatched := by
  induction lines generalizing source part with
  | nil =>
      obtain rfl := List.prefix_nil.mp hpart
      rfl
  | cons line lines ih =>
      have hunbroken := hlines line List.mem_cons_self
      have hwhole : (source.feed (line ++ ['\n'])).dispatched =
          source.dispatched := by
        rw [feed_line hsource hunbroken]
        exact dispatched_take (hne line List.mem_cons_self)
      rw [List.flatMap_cons] at hpart
      rcases prefix_append_cases hpart with hline | ⟨rest, rfl, hrest⟩
      · rcases List.prefix_concat_iff.mp hline with rfl | hwithin
        · exact hwhole
        · rw [feed_unbroken hsource.afterReturn fun c hc =>
            hunbroken c (hwithin.mem hc)]
      · have hafter := take_atLine hsource line
        rw [← feed_line hsource hunbroken] at hafter
        rw [feed_append, ← hwhole]
        exact ih hafter
          (fun other hother => hne other (List.mem_cons_of_mem _ hother))
          (fun other hother => hlines other (List.mem_cons_of_mem _ hother))
          hrest

/-- A whole frame dispatches its messages. -/
theorem feed_render (hsource : source.Ready) (frame : Frame) :
    (source.feed frame.render).Ready ∧
      (source.feed frame.render).dispatched =
        source.dispatched ++ frame.messages := by
  have hfeed : source.feed frame.render =
      (frame.lines.foldl Source.take source).dispatch := by
    have hafter := foldl_take_atLine hsource.toAtLine frame.lines
    rw [Frame.render, Frame.body, feed_append,
      feed_lines hsource.toAtLine frame.unbroken]
    exact feed_line hafter (fun c hc => absurd hc List.not_mem_nil)
  have hafter := foldl_take_atLine hsource.toAtLine frame.lines
  refine ⟨hfeed ▸ dispatch_ready hafter, ?_⟩
  rw [hfeed, hsource.eq, foldl_take_dispatched frame.nonempty, Frame.messages]
  have hnone : (frame.lines.foldl Source.take Source.start).dispatched = [] := by
    have hstart : Source.start.AtLine := ⟨rfl, rfl⟩
    have hkept := dispatched_feed_prefix hstart frame.nonempty frame.unbroken
      (List.prefix_refl _)
    rw [feed_lines ⟨rfl, rfl⟩ frame.unbroken] at hkept
    exact hkept
  simp only [Source.dispatch, hnone]
  split <;> simp

end Lines

/-- However much of a stream of whole frames has been received, the messages
of the frames that are complete in it have been dispatched, and no others. -/
theorem dispatched_of_prefix {source : Source} (hsource : source.Ready)
    (frames : List Frame) {received : List Char}
    (hreceived : received <+: frames.flatMap Frame.render) :
    ∃ complete rest, frames = complete ++ rest ∧
      complete.flatMap Frame.render <+: received ∧
      (∀ next ∈ rest.head?,
        ¬(complete ++ [next]).flatMap Frame.render <+: received) ∧
      (source.feed received).dispatched =
        source.dispatched ++ complete.flatMap Frame.messages := by
  induction frames generalizing source received with
  | nil =>
      obtain rfl := List.prefix_nil.mp hreceived
      refine ⟨[], [], rfl, List.prefix_refl _, fun next hnext => ?_,
        (List.append_nil _).symm⟩
      cases hnext
  | cons frame frames ih =>
      rw [List.flatMap_cons] at hreceived
      by_cases hwhole : frame.render <+: received
      · obtain ⟨later, rfl⟩ := hwhole
        obtain ⟨hready, hmessages⟩ := feed_render hsource frame
        obtain ⟨complete, rest, rfl, hcomplete, hnext, hdispatched⟩ :=
          ih hready ((List.prefix_append_right_inj _).mp hreceived)
        refine ⟨frame :: complete, rest, rfl, ?_, fun next hrest => ?_, ?_⟩
        · rw [List.flatMap_cons]
          exact (List.prefix_append_right_inj _).mpr hcomplete
        · rw [List.cons_append, List.flatMap_cons,
            List.prefix_append_right_inj]
          exact hnext next hrest
        · rw [feed_append, hdispatched, hmessages, List.flatMap_cons,
            List.append_assoc]
      · refine ⟨[], frame :: frames, rfl, List.nil_prefix, ?_, ?_⟩
        · rintro next hnext
          obtain rfl : frame = next := by simpa using hnext
          simpa using hwhole
        · rw [List.flatMap_nil, List.append_nil]
          have hpart : received <+: frame.body := by
            rcases prefix_append_cases hreceived with hpart | ⟨later, rfl, _⟩
            · rcases List.prefix_concat_iff.mp hpart with rfl | hpart
              · exact absurd (List.prefix_refl _) hwhole
              · exact hpart
            · exact absurd (List.prefix_append _ _) hwhole
          exact dispatched_feed_prefix hsource.toAtLine frame.nonempty
            frame.unbroken hpart

end EventStream
