/-
Looking for a machine in a listing. A machine bears a class if its own class is that one, in full or behind its last dot,
in any case (`Bears`). The lookup lowers a class before it cuts it at the last dot, which is the same unless a capital
sigma stands behind the dot (`runs_iff_bears`).

- `lookups_in_listing`: what is found in a listing that was written.
- `sigma_not_found`: a class that is not found by what follows its last dot.
-/
import DebugFind.Proofs.Attach.Listing
import DebugFind.Proofs.Text.Case

namespace DebugFind.Attach

open DebugFind.Text DebugFind.Numeral

/-! ## By class -/

namespace Entry

/-- the class of the machine is the given one, in full or behind its last dot, in any case -/
def Bears (e : Entry) (mainClass : String) : Prop :=
  lower e.mainClass.toList = lower mainClass.toList ∨
    lower (afterLast '.' e.mainClass.toList) = lower mainClass.toList

instance (e : Entry) (mainClass : String) : Decidable (e.Bears mainClass) := inferInstanceAs (Decidable (_ ∨ _))

/-- what stands behind the last dot of the class has no letter whose lower case depends on what stands before the dot -/
def IsSteady (e : Entry) : Prop := '.' ∈ e.mainClass.toList → 'Σ' ∉ afterLast '.' e.mainClass.toList

instance (e : Entry) : Decidable e.IsSteady := inferInstanceAs (Decidable (_ → _))

theorem IsSteady.afterLast_lower {e : Entry} (h : e.IsSteady) :
    afterLast '.' (lower e.mainClass.toList) = lower (afterLast '.' e.mainClass.toList) := by
  by_cases hdot : '.' ∈ e.mainClass.toList
  · exact Text.afterLast_lower (h hdot)
  · have hlower : '.' ∉ lower e.mainClass.toList := dot_notMem_lowerFrom hdot []
    rw [afterLast_of_notMem hdot, afterLast_of_notMem hlower]

theorem runs_iff_bears {e : Entry} (h : e.IsSteady) (mainClass : String) :
    e.runs mainClass = true ↔ e.Bears mainClass := by
  simp only [runs, Bears, Bool.or_eq_true, beq_iff_eq, h.afterLast_lower]

end Entry

variable {entries : List Entry}

theorem pidOf?_eq_some_iff {mainClass : String} {pid : Nat} :
    pidOf? entries mainClass = some pid ↔
      ∃ e, FirstOf (fun e => e.runs mainClass = true) entries e ∧ e.pid = pid := by
  simp only [pidOf?, Option.map_eq_some_iff, find?_eq_some_iff_firstOf]

theorem pidOf?_eq_none_iff {mainClass : String} :
    pidOf? entries mainClass = none ↔ ∀ e ∈ entries, ¬ e.runs mainClass = true := by
  simp only [pidOf?, Option.map_eq_none_iff, List.find?_eq_none]

/-! ## By process id -/

theorem classOf?_eq_some_iff {pid : Int} {mainClass : String} :
    classOf? entries pid = some mainClass ↔
      ∃ e, FirstOf (fun e => (e.pid : Int) = pid) entries e ∧ e.mainClass = mainClass := by
  simp only [classOf?, Option.map_eq_some_iff, find?_eq_some_iff_firstOf, beq_iff_eq]

theorem classOf?_eq_none_iff {pid : Int} : classOf? entries pid = none ↔ ∀ e ∈ entries, (e.pid : Int) ≠ pid := by
  simp only [classOf?, Option.map_eq_none_iff, List.find?_eq_none, beq_iff_eq, ne_eq]

/-- a machine whose process id no other one has is found by it -/
theorem classOf?_of_nodup (hnodup : (entries.map Entry.pid).Nodup) {e : Entry} (he : e ∈ entries) :
    classOf? entries e.pid = some e.mainClass := by
  rcases hclass : classOf? entries e.pid with _ | mainClass
  · exact absurd rfl (classOf?_eq_none_iff.1 hclass e he)
  · obtain ⟨e', hfirst, rfl⟩ := classOf?_eq_some_iff.1 hclass
    have hpid : e'.pid = e.pid := Int.ofNat_inj.1 hfirst.holds
    rw [List.inj_on_of_nodup_map hnodup hfirst.mem he hpid]

/-! ## In a listing -/

theorem not_isLauncher_of_mem {rows : List Row} {e : Entry} (h : e ∈ rows.filterMap Row.listed) : ¬ e.IsLauncher := by
  obtain ⟨row, -, hrow⟩ := List.mem_filterMap.1 h
  rcases row with ⟨entry, arguments, gaps⟩ | text
  · rw [Row.listed] at hrow
    split_ifs at hrow with hlauncher
    cases hrow
    exact hlauncher
  · cases hrow

/-- **What is found in a listing.** Lines are read as the machines on them, but for the launchers, in order, and no word
that is asked for is missing from a line. A class is found at the first machine that bears it, and not at all if none
does; a process id is found at the first machine that has it. The two agree if no two machines have the same id. -/
theorem lookups_in_listing {rows : List Row} (hrows : ∀ row ∈ rows, row.Regular) :
    let entries := rows.filterMap Row.listed
    (∀ text : String, lines text.toList = rows.map Row.line → readListing text = .ok entries) ∧
      lines (written rows).toList = rows.map Row.line ∧
      (∀ line, Entry.ofLineBySplits line = some (Entry.ofLine line)) ∧
      (∀ e ∈ entries, ¬ e.IsLauncher) ∧
      (∀ pid mainClass, classOf? entries pid = some mainClass ↔
        ∃ e, FirstOf (fun e => (e.pid : Int) = pid) entries e ∧ e.mainClass = mainClass) ∧
      ∀ mainClass, (∀ e ∈ entries, e.IsSteady) →
        (∀ pid, pidOf? entries mainClass = some pid ↔
          ∃ e, FirstOf (fun e => e.Bears mainClass) entries e ∧ e.pid = pid) ∧
        (pidOf? entries mainClass = none ↔ ∀ e ∈ entries, ¬ e.Bears mainClass) ∧
        ((entries.map Entry.pid).Nodup → ∀ pid, pidOf? entries mainClass = some pid →
          ∃ e, FirstOf (fun e => e.Bears mainClass) entries e ∧ e.pid = pid ∧
            classOf? entries pid = some e.mainClass) := by
  intro entries
  refine ⟨fun text => readListing_of_rows hrows, lines_written hrows, ofLineBySplits_eq,
    fun e he => not_isLauncher_of_mem he, fun pid mainClass => classOf?_eq_some_iff, ?_⟩
  intro mainClass hsteady
  have hruns : ∀ e ∈ entries, e.runs mainClass = true ↔ e.Bears mainClass :=
    fun e he => Entry.runs_iff_bears (hsteady e he) mainClass
  have hfound (pid : Nat) : pidOf? entries mainClass = some pid ↔
      ∃ e, FirstOf (fun e => e.Bears mainClass) entries e ∧ e.pid = pid := by
    rw [pidOf?_eq_some_iff]
    simp only [firstOf_congr hruns]
  refine ⟨hfound, ?_, ?_⟩
  · rw [pidOf?_eq_none_iff]
    exact forall₂_congr fun e he => not_congr (hruns e he)
  · intro hnodup pid hpid
    obtain ⟨e, hfirst, rfl⟩ := (hfound pid).1 hpid
    exact ⟨e, hfirst, rfl, classOf?_of_nodup hnodup hfirst.mem⟩

/-- lines that look like others: arguments that name the launcher, a launcher behind digits, no class, a blank line, a
number behind a word, a name in capitals -/
def trickyRows : List Row := [
  .machine ⟨12, "com.acme.Main"⟩ "sun.tools.jcmd.JCmd 7" ⟨['\t'], ['\u3000', ' '], [' '], [' ']⟩,
  .other [' '],
  .machine ⟨7, "jdk.jcmd/sun.tools.jcmd.JCmd"⟩ "-l" {},
  .other "x 1 Main".toList,
  .machine ⟨9, ""⟩ "" {},
  .machine ⟨15, "MAIN"⟩ "" {}]

/-- the first machine is found by the end of its class, and by its process id -/
theorem lookups_in_listing_of_trickyRows :
    let entries : List Entry := [⟨12, "com.acme.Main"⟩, ⟨9, ""⟩, ⟨15, "MAIN"⟩]
    (∀ row ∈ trickyRows, row.Regular) ∧ readListing (written trickyRows) = .ok entries ∧
      (∀ e ∈ entries, e.IsSteady) ∧ pidOf? entries "main" = some 12 ∧ classOf? entries 12 = some "com.acme.Main" ∧
      pidOf? entries "acme.Main" = none := by
  intro entries
  have hrows : ∀ row ∈ trickyRows, row.Regular := by
    simp only [trickyRows, List.forall_mem_cons]
    refine ⟨?_, ?_, ?_, ?_, ?_, ?_, List.forall_mem_nil _⟩
    · exact .machine (by decide) (by decide) (by decide) (by decide) (by decide) (by decide) (by decide) (by decide)
        (by decide)
    · exact .other (by decide) (by decide)
    · exact .machine (by decide) (by decide) (by decide) (by decide) (by decide) (by decide) (by decide) (by decide)
        (by decide)
    · exact .other (by decide) (by decide)
    · exact .nameless (by decide) (by decide) (by decide) (by decide) (by decide) (by decide) (by decide)
    · exact .machine (by decide) (by decide) (by decide) (by decide) (by decide) (by decide) (by decide) (by decide)
        (by decide)
  have hentries : trickyRows.filterMap Row.listed = entries := by decide
  obtain ⟨hread, hlines, -, -, hclass, hlookup⟩ := lookups_in_listing hrows
  rw [hentries] at hread hclass hlookup
  have hsteady : ∀ e ∈ entries, e.IsSteady := by decide
  obtain ⟨hfound, -, -⟩ := hlookup "main" hsteady
  obtain ⟨-, hnone, -⟩ := hlookup "acme.Main" hsteady
  have hfirst (P : Entry → Prop) (h : P ⟨12, "com.acme.Main"⟩) : FirstOf P entries ⟨12, "com.acme.Main"⟩ :=
    ⟨[], _, rfl, h, List.forall_mem_nil _⟩
  refine ⟨hrows, hread _ hlines, hsteady, (hfound 12).2 ⟨_, hfirst _ ?_, rfl⟩, (hclass 12 _).2 ⟨_, hfirst _ rfl, rfl⟩,
    hnone.2 ?_⟩
  · decide +kernel
  · decide +kernel

/-- **A class is not always found by what stands behind its last dot**: a sigma there ends a word in lower case, and does
not if it stands alone. -/
theorem sigma_not_found :
    let e : Entry := ⟨1, "A.Σ"⟩
    readListing "1 A.Σ\n" = .ok [e] ∧ e.Bears "Σ" ∧ pidOf? [e] "Σ" = none := by
  decide +kernel

end DebugFind.Attach
