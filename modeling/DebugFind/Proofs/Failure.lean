/-
The line that tells of a failure. A message may have any number of lines, and its first one may be empty; what is told is
the longest text that the message begins with and in which no line ends (`IsFirstLine`), which is the first of its lines
(`head?_lines`). A message without a text has no line at all, and the name of the kind of failure stands for it.

- `line_of_message_eq`, `line_of_message_ne`: what stands behind the stage in either case.
- `line_exact`: so what is told is one line, unless a failure from elsewhere that says nothing has a name of several.
-/
import DebugFind.Failure
import DebugFind.Proofs.Text

namespace DebugFind.Text

/-! ## First lines -/

/-- the longest text that another one begins with and in which no line ends -/
structure IsFirstLine (first text : List Char) : Prop where
  begins : first <+: text
  unbroken : Unbroken first
  longest : ∀ start, start <+: text → Unbroken start → start <+: first

/-- the text up to its first line break -/
def firstLine (s : List Char) : List Char := s.takeWhile (!isLineBreak ·)

theorem isFirstLine_firstLine (s : List Char) : IsFirstLine (firstLine s) s where
  begins := List.takeWhile_prefix _
  unbroken := fun c hc => by simpa using List.mem_takeWhile_imp hc
  longest := by
    rintro start ⟨rest, rfl⟩ hstart
    rw [firstLine, List.takeWhile_append_of_pos fun c hc => by simp [hstart c hc]]
    exact List.prefix_append start _

/-- the line that is being read is ended by the first line break of what is left to read, or by its end -/
theorem head?_linesFrom {line s : List Char} (h : line ≠ [] ∨ s ≠ []) :
    (linesFrom line s).head? = some (line.reverse ++ firstLine s) := by
  fun_induction linesFrom line s with
  | case1 line hline => exact absurd (List.isEmpty_iff.1 hline) (h.resolve_right (· rfl))
  | case2 line => simp [firstLine]
  | case3 line rest =>
    have hbreak : isLineBreak '\r' = true := rfl
    simp [firstLine, hbreak]
  | case4 line c rest _ hbreak => simp [firstLine, hbreak]
  | case5 line c rest _ hbreak ih =>
    rw [ih (Or.inl (List.cons_ne_nil c line))]
    simp [firstLine, hbreak]

/-- the first of the lines of a text is what stands before its first line break -/
theorem head?_lines {s : List Char} (h : s ≠ []) : (lines s).head? = some (firstLine s) := head?_linesFrom (Or.inr h)

end DebugFind.Text

namespace DebugFind.Failure

open DebugFind.Text

variable {stage : Stage} {f : Failure}

/-! ## What is told of a failure -/

theorem line_of_message_eq (h : f.message = "") : f.line stage = "failed after " ++ stage.name ++ ": " ++ f.title := by
  have hnothing : f.message.toList = [] := String.toList_eq_nil_iff.2 h
  unfold line
  rw [dif_pos hnothing]

theorem line_of_message_ne (h : f.message ≠ "") :
    f.line stage = "failed after " ++ stage.name ++ ": " ++ String.ofList (firstLine f.message.toList) := by
  have hsomething : f.message.toList ≠ [] := String.toList_eq_nil_iff.not.2 h
  have hhead : (lines f.message.toList).head (lines_ne_nil hsomething) = firstLine f.message.toList :=
    (List.head_eq_iff_head?_eq_some _).2 (head?_lines hsomething)
  unfold line
  rw [dif_neg hsomething, hhead]

/-- what stands in front of the message is on one line -/
theorem unbroken_front (stage : Stage) : Unbroken ("failed after " ++ stage.name ++ ": ").toList := by
  cases stage <;> decide +kernel

/-- a finding is named by one word -/
theorem unbroken_title (h : f.isFinding = true) : Unbroken f.title.toList := by
  have hnames (finding : Finding) : Unbroken finding.title.toList := by cases finding <;> decide +kernel
  cases f with
  | extraction | mismatch | channel | range => exact hnames _
  | _ => cases h

theorem unbroken_front_append (stage : Stage) (text : String) :
    Unbroken ("failed after " ++ stage.name ++ ": " ++ text).toList ↔ Unbroken text.toList := by
  rw [String.toList_append]
  exact ⟨fun h c hc => h c (List.mem_append_right _ hc), (unbroken_front stage).append⟩

theorem unbroken_line_iff : Unbroken (f.line stage).toList ↔ (f.message = "" → Unbroken f.title.toList) := by
  by_cases h : f.message = ""
  · rw [line_of_message_eq h, unbroken_front_append]
    exact ⟨fun htitle _ => htitle, fun htitle => htitle h⟩
  · rw [line_of_message_ne h, unbroken_front_append, String.toList_ofList]
    exact ⟨fun _ hnothing => absurd hnothing h, fun _ => (isFirstLine_firstLine _).unbroken⟩

/-- **What is told of a failure is one line.** Behind the stage stands the name of the kind of failure if the message is
empty. Otherwise the message has a first line, which is the longest text that the message begins with and in which no
line ends, and this stands there. No line ends in all this, unless in a name that stands for an empty message; the name
of a finding is one word. -/
theorem line_exact (stage : Stage) (f : Failure) :
    (f.message = "" → f.line stage = "failed after " ++ stage.name ++ ": " ++ f.title) ∧
      (f.message ≠ "" → ∃ first, (lines f.message.toList).head? = some first ∧
        IsFirstLine first f.message.toList ∧
        f.line stage = "failed after " ++ stage.name ++ ": " ++ String.ofList first) ∧
      (Unbroken (f.line stage).toList ↔ (f.message = "" → Unbroken f.title.toList)) ∧
      (f.isFinding = true → Unbroken (f.line stage).toList) := by
  refine ⟨line_of_message_eq, fun h => ?_, unbroken_line_iff, fun h => ?_⟩
  · have hsomething : f.message.toList ≠ [] := String.toList_eq_nil_iff.not.2 h
    exact ⟨_, head?_lines hsomething, isFirstLine_firstLine _, line_of_message_ne h⟩
  · exact unbroken_line_iff.2 fun _ => unbroken_title h

/-- a first line that is empty, one that ends without a line feed, and no line at all -/
example : ["\r\nlost", "lost\x85again", ""].map (fun message => line .done (.channel { message })) =
    ["failed after DONE: ", "failed after DONE: lost", "failed after DONE: ChannelFailure"] := by decide +kernel

end DebugFind.Failure
