/-
The addresses that the usual patterns find: the number of a thread, and the object of a class that a thread waits on. Both
patterns capture hexadecimal digits between two texts, the second of them with the name of the class escaped in it.

- `captureIn?_eq_some_iff`, `captureIn?_eq_none_iff`: which lines such a pattern matches, and what it captures there.
- `locate_of_found`, `locate_of_not_found`: which address is found in a text; a failure never names a reason.
- `Usual`: the patterns by name; `compile_source` says that each is what its text is read as.
- `extract_exact`: they find exactly what they look for.
-/
import DebugFind.Proofs.Extraction.FirstLine
import DebugFind.Proofs.Pattern.Search
import DebugFind.Proofs.Pattern.Spelling

namespace DebugFind.ExtractionPattern

open DebugFind.Text DebugFind.Numeral DebugFind.Pattern

/-! ## Lines that match -/

section Matching

variable {p : ExtractionPattern} {before after : String}

/-- digits stand between the two texts in a line, and nowhere in it further to the left -/
def StandsFirst (before after : String) (line run : List Char) : Prop :=
  ∃ skipped, Stands before after line skipped run ∧
    ∀ skipped' run', Stands before after line skipped' run' → skipped.length ≤ skipped'.length

/-- a pattern that captures digits between two texts -/
structure Between (p : ExtractionPattern) (before after : String) : Prop where
  pattern : p.pattern = hexBetween before after
  group : p.group = 1
  delimits : Delimits after

section Between

variable (hp : p.Between before after)
include hp

/-- where the pattern matches, and what it then captures -/
theorem run_iff_stands {line skipped rest run : List Char} (hline : line = skipped ++ rest) :
    (∃ d, p.pattern.root.run some ⟨skipped.reverse ++ [], rest, []⟩ = some d ∧ d.capture? p.group = some run) ↔
      Stands before after line skipped run := by
  rw [hp.pattern, hp.group]
  constructor
  · rintro ⟨d, hd, hcapture⟩
    obtain ⟨taken, others, rfl, hnumeral, rfl⟩ := (run_hexBetween_iff hp.delimits).1 hd
    cases hcapture
    exact ⟨hnumeral, others, by simp [hline]⟩
  · rintro ⟨hnumeral, others, hstands⟩
    have hrest : rest = before.toList ++ (run ++ (after.toList ++ others)) := by
      rw [hline] at hstands
      simpa using hstands
    exact ⟨_, (run_hexBetween_iff hp.delimits).2 ⟨run, others, hrest, hnumeral, rfl⟩, rfl⟩

/-- whatever the pattern matches, it captures digits -/
theorem exists_run_of_match {b rest : List Char} {d : Cursor} (h : p.pattern.root.run some ⟨b, rest, []⟩ = some d) :
    ∃ run, d.capture? p.group = some run := by
  rw [hp.pattern] at h
  obtain ⟨run, others, -, -, rfl⟩ := (run_hexBetween_iff hp.delimits).1 h
  rw [hp.group]
  exact ⟨run, rfl⟩

/-- **A line matches exactly if digits stand in it between the two texts, and those furthest to the left are captured.** -/
theorem captureIn?_eq_some_iff {line : List Char} {captured : Option (List Char)} :
    p.captureIn? line = some captured ↔ ∃ run, captured = some run ∧ StandsFirst before after line run := by
  rw [captureIn?, Node.search, Option.map_eq_some_iff]
  constructor
  · rintro ⟨d, hsearch, rfl⟩
    obtain ⟨skipped, rest, hline, hmatch, hfirst⟩ := searchFrom_eq_some_iff.1 hsearch
    obtain ⟨run, hcapture⟩ := exists_run_of_match hp hmatch
    refine ⟨run, hcapture, skipped, (run_iff_stands hp hline).1 ⟨d, hmatch, hcapture⟩, ?_⟩
    intro skipped' run' hstands
    by_contra hshorter
    obtain ⟨-, others, hline'⟩ := id hstands
    simp only [List.append_assoc] at hline'
    obtain ⟨d', hmatch', -⟩ := (run_iff_stands hp hline').2 hstands
    rw [hfirst skipped' _ hline' (Nat.lt_of_not_le hshorter)] at hmatch'
    cases hmatch'
  · rintro ⟨run, rfl, skipped, hstands, hleast⟩
    obtain ⟨-, others, hline⟩ := id hstands
    simp only [List.append_assoc] at hline
    obtain ⟨d, hmatch, hcapture⟩ := (run_iff_stands hp hline).2 hstands
    refine ⟨d, searchFrom_eq_some_iff.2 ⟨skipped, _, hline, hmatch, ?_⟩, hcapture⟩
    intro skipped' rest' hline' hshorter
    rw [Option.eq_none_iff_forall_ne_some]
    intro d' hmatch'
    obtain ⟨run', hcapture'⟩ := exists_run_of_match hp hmatch'
    have hle := hleast skipped' run' ((run_iff_stands hp hline').1 ⟨d', hmatch', hcapture'⟩)
    omega

theorem captureIn?_eq_none_iff {line : List Char} :
    p.captureIn? line = none ↔ ∀ skipped run, ¬ Stands before after line skipped run := by
  rw [captureIn?, Node.search, Option.map_eq_none_iff, searchFrom_eq_none_iff]
  constructor
  · intro hnone skipped run hstands
    obtain ⟨-, others, hline⟩ := id hstands
    simp only [List.append_assoc] at hline
    obtain ⟨d, hmatch, -⟩ := (run_iff_stands hp hline).2 hstands
    rw [hnone skipped _ hline] at hmatch
    cases hmatch
  · intro hnone skipped rest hline
    rw [Option.eq_none_iff_forall_ne_some]
    intro d hmatch
    obtain ⟨run, hcapture⟩ := exists_run_of_match hp hmatch
    exact hnone skipped run ((run_iff_stands hp hline).1 ⟨d, hmatch, hcapture⟩)

end Between

/-! ## Texts in which an address is found -/

/-- an address is the value of the digits furthest to the left in the first line in which digits stand between two texts -/
def Found (before after text : String) (address : Nat) : Prop :=
  ∃ earlier line later run, lines text.toList = earlier ++ line :: later ∧
    (∀ l ∈ earlier, ∀ skipped run, ¬ Stands before after l skipped run) ∧ StandsFirst before after line run ∧
    address = ofHex run

theorem locate_of_found (hp : p.Between before after) {text : String} {address : Nat}
    (h : Found before after text address) : ∃ line, p.locate text = .ok (address, line) := by
  obtain ⟨earlier, line, later, run, hlines, hearlier, hfirst, rfl⟩ := h
  have hmatch : p.firstMatch? (lines text.toList) = some (line, some run) := by
    refine firstMatch?_eq_some_iff.2 ⟨earlier, later, hlines, ?_, ?_⟩
    · intro l hl
      exact (captureIn?_eq_none_iff hp).2 (hearlier l hl)
    · exact (captureIn?_eq_some_iff hp).2 ⟨run, rfl, hfirst⟩
  obtain ⟨skipped, ⟨hnumeral, -⟩, -⟩ := hfirst
  exact ⟨String.ofList line, locate_of_digits hmatch hnumeral⟩

theorem locate_of_not_found (hp : p.Between before after) {text : String}
    (h : ¬ ∃ address, Found before after text address) : p.locate text = .error ⟨p, text, none⟩ := by
  have hnone : p.firstMatch? (lines text.toList) = none := by
    rw [Option.eq_none_iff_forall_ne_some]
    rintro ⟨line, captured⟩ hmatch
    obtain ⟨earlier, later, hlines, hearlier, hline⟩ := firstMatch?_eq_some_iff.1 hmatch
    obtain ⟨run, -, hfirst⟩ := (captureIn?_eq_some_iff hp).1 hline
    refine h ⟨ofHex run, earlier, line, later, run, hlines, ?_, hfirst, rfl⟩
    intro l hl
    exact (captureIn?_eq_none_iff hp).1 (hearlier l hl)
  exact locate_of_unmatched hnone

end Matching

/-! ## The usual patterns -/

/-- the patterns that are built in: one for threads, and one for the locks of every class -/
inductive Usual where
  | thread
  | lock (lockClass : String)

namespace Usual

/-- the name of the pattern -/
def name : Usual → String
  | .thread => "thread_id"
  | .lock lockClass => "waiting_on_" ++ lockClass

/-- the text of the pattern -/
def source : Usual → String
  | .thread => " tid=0x([0-9a-fA-F]+) "
  | .lock lockClass => "- waiting on <0x([0-9a-fA-F]+)> \\(a " ++ escape lockClass ++ "\\)"

def pattern : Usual → ExtractionPattern
  | .thread => threadId
  | .lock lockClass => waitingOnLock lockClass

/-- what stands before the digits -/
def before : Usual → String
  | .thread => " tid=0x"
  | .lock _ => "- waiting on <0x"

/-- what stands behind them -/
def after : Usual → String
  | .thread => " "
  | .lock lockClass => "> (a " ++ lockClass ++ ")"

theorem between (usual : Usual) : usual.pattern.Between usual.before usual.after := by
  cases usual with
  | thread => exact ⟨rfl, rfl, ' ', [], rfl, by decide⟩
  | lock lockClass =>
    refine ⟨rfl, rfl, '>', (" (a " ++ lockClass ++ ")").toList, ?_, by decide⟩
    simp [after, String.toList_append]

theorem compile_thread (runtime : Runtime) : compile runtime (name .thread) (source .thread) = .ok threadId := by
  have hleft : " tid=0x".toList.all (· ∉ reserved) := by decide
  have hright : " ".toList.all (· ∉ reserved) := by decide
  have hsource : String.ofList (" tid=0x".toList ++ digitsSource ++ " ".toList) = source .thread := by decide
  have hread : Pattern.compile runtime (source .thread) = .ok (hexBetween " tid=0x" " ") := by
    rw [← hsource]
    exact compile_hexBetween runtime (spells_self hleft) (spells_self hright)
  rw [compile, hread]
  rfl

/-- a pattern text whose last part is an escaped text, as it is put together -/
theorem ofList_escaped {start finish : String} {left middle last : List Char}
    (hstart : start.toList = left ++ digitsSource ++ middle) (hfinish : finish.toList = last) (text : String) :
    String.ofList (left ++ digitsSource ++ (middle ++ (text.toList.flatMap escapeChar ++ last))) =
      start ++ escape text ++ finish := by
  refine String.toList_inj.1 ?_
  rw [String.toList_ofList, String.toList_append, String.toList_append, hstart, hfinish, escape, String.toList_ofList]
  simp only [List.append_assoc]

theorem source_waitingOnLock (lockClass : String) : (waitingOnLock lockClass).source = source (.lock lockClass) := by
  have hparts {start first second third : String} (h : start = first ++ second ++ third) (text finish : String) :
      first ++ second ++ (third ++ text ++ finish) = start ++ text ++ finish := by
    rw [h]
    simp only [String.append_assoc]
  exact hparts (by decide) _ _

theorem compile_lock (runtime : Runtime) (lockClass : String) :
    compile runtime (name (.lock lockClass)) (source (.lock lockClass)) = .ok (waitingOnLock lockClass) := by
  have hleft : "- waiting on <0x".toList.all (· ∉ reserved) := by decide
  have hopen : Spells "> \\(a ".toList "> (a ".toList := by
    show Spells ['>', ' ', '\\', '(', 'a', ' '] ['>', ' ', '(', 'a', ' ']
    apply Spells.plain '>' (by decide)
    apply Spells.plain ' ' (by decide)
    apply Spells.escaped '(' (by decide)
    apply Spells.plain 'a' (by decide)
    apply Spells.plain ' ' (by decide)
    exact Spells.nil
  have hclose : Spells "\\)".toList ")".toList := by
    show Spells ['\\', ')'] [')']
    apply Spells.escaped ')' (by decide)
    exact Spells.nil
  have hright : Spells ("> \\(a ".toList ++ (lockClass.toList.flatMap escapeChar ++ "\\)".toList))
      ("> (a " ++ lockClass ++ ")").toList := by
    rw [String.toList_append, String.toList_append, List.append_assoc]
    exact hopen.append ((spells_escape lockClass.toList).append hclose)
  have hread : Pattern.compile runtime (source (.lock lockClass)) =
      .ok (hexBetween "- waiting on <0x" ("> (a " ++ lockClass ++ ")")) := by
    have hstart : "- waiting on <0x([0-9a-fA-F]+)> \\(a ".toList =
        "- waiting on <0x".toList ++ digitsSource ++ "> \\(a ".toList := by decide
    have hsource : String.ofList ("- waiting on <0x".toList ++ digitsSource ++
        ("> \\(a ".toList ++ (lockClass.toList.flatMap escapeChar ++ "\\)".toList))) = source (.lock lockClass) :=
      ofList_escaped hstart rfl lockClass
    rw [← hsource]
    exact compile_hexBetween runtime (spells_self hleft) hright
  have hpattern (text : String) (h : (waitingOnLock lockClass).source = text) :
      ofPattern ("waiting_on_" ++ lockClass) text (hexBetween "- waiting on <0x" ("> (a " ++ lockClass ++ ")")) 1 =
        .ok (waitingOnLock lockClass) := by
    subst h
    rfl
  rw [compile, hread]
  exact hpattern _ (source_waitingOnLock lockClass)

/-- the pattern is what its text is read as -/
theorem compile_source (runtime : Runtime) (usual : Usual) :
    compile runtime usual.name usual.source = .ok usual.pattern := by
  cases usual with
  | thread => exact compile_thread runtime
  | lock lockClass => exact compile_lock runtime lockClass

end Usual

/-- **The usual patterns find exactly what they look for.** Each is what its text is read as, for every name of a class and
whatever the runtime. In every text, an address is found exactly if in some line hexadecimal digits stand between what the
pattern has before and behind them; it is the value of the digits furthest to the left in the first such line. Otherwise
there is a failure, and none that names a reason: what is captured is never anything else than digits. -/
theorem extract_exact {σ : Type} (runtime : Runtime) (usual : Usual) (text : String) (logger : Logger) (s : σ) :
    let outcome := usual.pattern.extract text logger s
    compile runtime usual.name usual.source = .ok usual.pattern ∧
      (∀ address, outcome.result = .ok address ↔ Found usual.before usual.after text address) ∧
      ∀ e, outcome.result = .error e → e = .extraction ⟨usual.pattern, text, none⟩ := by
  intro outcome
  have hfound {address : Nat} (h : Found usual.before usual.after text address) : outcome.result = .ok address := by
    obtain ⟨line, hlocate⟩ := locate_of_found usual.between h
    show (usual.pattern.extract text logger s).result = _
    rw [extract, hlocate]
    rfl
  have hnot (h : ¬ ∃ address, Found usual.before usual.after text address) :
      outcome.result = .error (.extraction ⟨usual.pattern, text, none⟩) := by
    show (usual.pattern.extract text logger s).result = _
    rw [extract, locate_of_not_found usual.between h]
    rfl
  refine ⟨usual.compile_source runtime, ?_, ?_⟩
  · intro address
    constructor
    · intro hresult
      by_cases h : ∃ address, Found usual.before usual.after text address
      · obtain ⟨address', h⟩ := h
        have hsame := hfound h
        rw [hresult] at hsame
        cases hsame
        exact h
      · rw [hnot h] at hresult
        cases hresult
    · exact hfound
  · intro e he
    by_cases h : ∃ address, Found usual.before usual.after text address
    · obtain ⟨address, h⟩ := h
      rw [hfound h] at he
      cases he
    · rw [hnot h] at he
      cases he
      rfl

/-- a class whose name would mean something else if it were not escaped, behind digits that no class follows -/
example : ((Usual.lock "a.b[]").pattern.locate "- waiting on <0x2> - waiting on <0x1F> (a a.b[])").toOption.map (·.1) =
    some 0x1f := by decide +kernel

end DebugFind.ExtractionPattern
