/-
What a profile that was read guarantees beyond its types: its numbers can be written (`Proper`). Sentinels and the
distance of a sweep are bounded by the limit on numbers that are read, the expected value by the word it stands in.
-/
import DebugFind.Profile.Reader
import DebugFind.Proofs.Command
import DebugFind.Proofs.Expectation
import DebugFind.Proofs.Json

namespace DebugFind

open DebugFind.Numeral DebugFind.Text

namespace Profile

/-- the numbers of a profile can be written -/
structure Proper (p : Profile) : Prop where
  sentinels : ∀ a ∈ p.sentinels, Address.Writable a
  lookback : Numeral.Writable p.sweep.lookback
  value : Numeral.Writable p.expectedField.value

/-! ## Sections -/

/-- the whole numbers of a section can be written -/
def Section.Wholes (s : Section) : Prop := Json.Wholes Numeral.Writable (.object s.members)

theorem Section.Wholes.of_value {s : Section} {key : String} {v : Json} (h : s.Wholes) (hv : s.value key = .ok v) :
    Json.Wholes Numeral.Writable v := by
  rw [Section.value] at hv
  split at hv <;> cases hv
  exact h.of_member (by assumption)

theorem Section.Wholes.whole {s : Section} {key : String} {n : Int} (h : s.Wholes) (hn : s.whole key = .ok n) :
    Numeral.Writable n := by
  obtain ⟨v, hv, hn⟩ := exists_of_bind_eq_ok hn
  have hwholes := h.of_value hv
  split at hn <;> cases hn
  exact Json.wholes_int.1 hwholes

theorem Section.Wholes.subsection {s t : Section} {key : String} (h : s.Wholes) (ht : s.subsection key = .ok t) :
    t.Wholes := by
  obtain ⟨v, hv, ht⟩ := exists_of_bind_eq_ok ht
  have hwholes := h.of_value hv
  split at ht <;> cases ht
  exact hwholes

theorem writable_of_readSentinels {index : Nat} {vs : List Json} {sentinels : List Int}
    (h : readSentinels index vs = .ok sentinels) : ∀ a ∈ sentinels, Address.Writable a := by
  induction vs generalizing index sentinels with
  | nil =>
    rw [readSentinels] at h
    cases h
    exact fun a ha => absurd ha List.not_mem_nil
  | cons v rest ih =>
    unfold readSentinels at h
    split at h
    · rename_i heq
      cases heq
    · rename_i text rest' heq
      cases heq
      split_ifs at h
      · split at h
        · rename_i a ha
          obtain ⟨others, hothers, h⟩ := exists_of_bind_eq_ok h
          cases h
          exact List.forall_mem_cons.2 ⟨Address.writable_of_parse ha, ih hothers⟩
        · cases h
        · cases h
      · cases h
    · cases h

theorem writable_of_readSweep {s : Section} {settings : SweepSettings} (hs : s.Wholes)
    (h : readSweep s = .ok settings) :
    Numeral.Writable settings.lookback := by
  obtain ⟨lookback, hlookback, h⟩ := exists_of_bind_eq_ok h
  obtain ⟨count, -, h⟩ := exists_of_bind_eq_ok h
  split_ifs at h with hnegative hcount
  · cases h
  · cases h
    simp only
    rw [Int.toNat_of_nonneg (by omega)]
    exact hs.whole hlookback
  · cases h

/-- a value that fits a word of 32 bits can be written -/
theorem writable_of_readExpectedField {s : Section} {e : FieldExpectation} (h : readExpectedField s = .ok e) :
    Numeral.Writable e.value := by
  obtain ⟨name, -, h⟩ := exists_of_bind_eq_ok h
  obtain ⟨typeTag, -, h⟩ := exists_of_bind_eq_ok h
  obtain ⟨value, -, h⟩ := exists_of_bind_eq_ok h
  split_ifs at h with hname htag hvalue
  · cases h
  · cases h
  · cases h
    exact writable_of_isWord (isWord_iff_mem.2 hvalue)
  · split at h <;> cases h

/-! ## The outermost object -/

/-- what is read of the object under a key -/
def Section.part {α : Type} (s : Section) (key : String) (read : Section → Reading α) : Reading α :=
  s.subsection key >>= read

/-- what is read of the list of sentinels -/
def readListed (s : Section) : Reading (List Int) := do
  let listed ← s.items "sentinel_addresses"
  if listed.isEmpty then refuse .noSentinels else readSentinels 0 listed

theorem readRoot_eq (runtime : Runtime) (s : Section) : readRoot runtime s = (do
    let version ← s.whole "version"
    if version < 1 then refuse .versionBelowOne
    else
      let threadPattern ← s.part "thread_pattern" (readPattern runtime)
      let objectPattern ← s.part "object_pattern" (readPattern runtime)
      let sentinels ← readListed s
      let sweep ← s.part "sweep" readSweep
      let sweepThreadNeighborhood ← s.truth "sweep_thread_neighborhood"
      let expectedField ← s.part "expected_field" readExpectedField
      let launcher ← s.part "jcmd" readLauncher
      return ⟨version.toNat, threadPattern, objectPattern, sentinels, sweep, sweepThreadNeighborhood, expectedField,
        launcher⟩) := by
  unfold readRoot
  simp only [Section.part, readListed, bind_assoc, ite_bind]

/-- an object is read as a profile: each part of the profile is read from its own key -/
structure ReadFrom (runtime : Runtime) (s : Section) (p : Profile) : Prop where
  version : ∃ version, s.whole "version" = .ok version ∧ 1 ≤ version ∧ p.version = version.toNat
  threadPattern : s.part "thread_pattern" (readPattern runtime) = .ok p.threadPattern
  objectPattern : s.part "object_pattern" (readPattern runtime) = .ok p.objectPattern
  sentinels : readListed s = .ok p.sentinels
  sweep : s.part "sweep" readSweep = .ok p.sweep
  sweepThreadNeighborhood : s.truth "sweep_thread_neighborhood" = .ok p.sweepThreadNeighborhood
  expectedField : s.part "expected_field" readExpectedField = .ok p.expectedField
  launcher : s.part "jcmd" readLauncher = .ok p.launcher

variable {runtime : Runtime}

theorem readRoot_eq_ok_iff_readFrom {s : Section} {p : Profile} :
    readRoot runtime s = .ok p ↔ ReadFrom runtime s p := by
  rw [readRoot_eq]
  constructor
  · intro h
    obtain ⟨version, hversion, h⟩ := exists_of_bind_eq_ok h
    split_ifs at h with hbelow
    · cases h
    obtain ⟨threadPattern, hthread, h⟩ := exists_of_bind_eq_ok h
    obtain ⟨objectPattern, hobject, h⟩ := exists_of_bind_eq_ok h
    obtain ⟨sentinels, hsentinels, h⟩ := exists_of_bind_eq_ok h
    obtain ⟨sweep, hsweep, h⟩ := exists_of_bind_eq_ok h
    obtain ⟨around, haround, h⟩ := exists_of_bind_eq_ok h
    obtain ⟨expectedField, hexpected, h⟩ := exists_of_bind_eq_ok h
    obtain ⟨launcher, hlauncher, h⟩ := exists_of_bind_eq_ok h
    cases h
    exact ⟨⟨version, hversion, not_lt.1 hbelow, rfl⟩, hthread, hobject, hsentinels, hsweep, haround, hexpected,
      hlauncher⟩
  · obtain ⟨_, threadPattern, objectPattern, sentinels, sweep, around, expectedField, launcher⟩ := p
    rintro ⟨⟨version, hversion, hone, rfl⟩, hthread, hobject, hsentinels, hsweep, haround, hexpected, hlauncher⟩
    rw [bind_of_eq_ok hversion, if_neg (not_lt.2 hone), bind_of_eq_ok hthread, bind_of_eq_ok hobject,
      bind_of_eq_ok hsentinels, bind_of_eq_ok hsweep, bind_of_eq_ok haround, bind_of_eq_ok hexpected,
      bind_of_eq_ok hlauncher]
    rfl

theorem proper_of_readRoot {s : Section} {p : Profile} (hs : s.Wholes) (h : readRoot runtime s = .ok p) :
    p.Proper := by
  have hread := readRoot_eq_ok_iff_readFrom.1 h
  obtain ⟨listed, -, hlisted⟩ := exists_of_bind_eq_ok hread.sentinels
  obtain ⟨sweepSection, hsection, hsweep⟩ := exists_of_bind_eq_ok hread.sweep
  obtain ⟨_, -, hexpected⟩ := exists_of_bind_eq_ok hread.expectedField
  split_ifs at hlisted with hnone
  · cases hlisted
  · exact ⟨writable_of_readSentinels hlisted, writable_of_readSweep (hs.subsection hsection) hsweep,
      writable_of_readExpectedField hexpected⟩

/-- a file that is read as a profile holds ASCII text, and this an object that is read as one -/
theorem exists_of_ofFile {path : String} {file : Except FileError (List UInt8)} {p : Profile}
    (h : ofFile runtime path file = .ok p) :
    ∃ bytes text members, file = .ok bytes ∧ ofAscii bytes = .ok text ∧
      Json.read runtime.json.overflow? (String.ofList (unifyLineEnds text)) = .ok (.object members) ∧
        ReadFrom runtime ⟨"root", members⟩ p := by
  unfold ofFile at h
  split at h
  · rename_i bytes
    obtain ⟨text, htext, h⟩ := exists_of_bind_eq_ok h
    rw [ofText] at h
    split at h
    · rename_i v hv
      unfold ofJson at h
      split at h
      · exact ⟨bytes, text, _, rfl, htext, hv, readRoot_eq_ok_iff_readFrom.1 h⟩
      · cases h
    · cases h
    · cases h
    · cases h
    · cases h
  · cases h
  · cases h

/-- **The numbers of a profile that was read can be written.** -/
theorem proper_of_ofFile {path : String} {file : Except FileError (List UInt8)} {p : Profile}
    (h : ofFile runtime path file = .ok p) : p.Proper := by
  obtain ⟨bytes, text, members, -, -, hjson, hread⟩ := exists_of_ofFile h
  exact proper_of_readRoot (s := ⟨"root", members⟩) (Json.wholes_of_read hjson) (readRoot_eq_ok_iff_readFrom.2 hread)

/-! ## Files of ASCII text -/

/-- the bytes of a text -/
def asBytes (text : List Char) : List UInt8 := text.map fun c => UInt8.ofNat c.toNat

theorem ofNat_toNat_of_ascii {c : Char} (h : c.toNat < 128) : Char.ofNat (UInt8.ofNat c.toNat).toNat = c := by
  have hbyte : (UInt8.ofNat c.toNat).toNat = c.toNat := by
    rw [UInt8.toNat_ofNat']
    omega
  rw [hbyte, Char.ofNat_toNat]

/-- bytes of ASCII characters are read as these -/
theorem ofAscii_of_ascii {bytes : List UInt8} (h : ∀ b ∈ bytes, b < 128) :
    ofAscii bytes = .ok (bytes.map fun b => Char.ofNat b.toNat) := by
  have hall : bytes.takeWhile (· < 128) = bytes := List.takeWhile_eq_self_iff.2 fun b hb => decide_eq_true (h b hb)
  simp only [ofAscii, hall, List.drop_length]

/-- whether a text is ASCII -/
def isAscii (text : List Char) : Bool := text.all (·.toNat < 128)

theorem lt_of_isAscii {text : List Char} (h : isAscii text = true) : ∀ c ∈ text, c.toNat < 128 :=
  fun c hc => of_decide_eq_true (List.all_eq_true.1 h c hc)

theorem lt_of_mem_asBytes {text : List Char} (h : isAscii text = true) : ∀ b ∈ asBytes text, b < 128 := by
  intro b hb
  obtain ⟨c, hc, rfl⟩ := List.mem_map.1 hb
  have hc := lt_of_isAscii h c hc
  rw [UInt8.lt_iff_toNat_lt, UInt8.toNat_ofNat']
  show _ < 128
  omega

/-- ASCII text is read as it was written -/
theorem ofAscii_asBytes {text : List Char} (h : isAscii text = true) : ofAscii (asBytes text) = .ok text := by
  have htext : (asBytes text).map (fun b => Char.ofNat b.toNat) = text := by
    rw [asBytes, List.map_map]
    conv_rhs => rw [← List.map_id text]
    exact List.map_congr_left fun c hc => ofNat_toNat_of_ascii (lt_of_isAscii h c hc)
  rw [ofAscii_of_ascii (lt_of_mem_asBytes h), htext]

/-- a file of ASCII text is read in two steps: as JSON, and as a profile -/
theorem ofFile_asBytes {path : String} {text : List Char} {r : Reading Profile} (h : isAscii text = true)
    (hroom : (unifyLineEnds text).countP Json.isOpening ≤ runtime.json.levels)
    (hread : (Json.readText (unifyLineEnds text).length (unifyLineEnds text)).toOption.map
      (fun v => ofJson runtime path v.1) = some r) :
    ofFile runtime path (.ok (asBytes text)) = r := by
  obtain ⟨v, hv, hr⟩ := Option.map_eq_some_iff.1 hread
  have hjson : Json.readText (unifyLineEnds text).length (unifyLineEnds text) = .ok v := by
    cases hjson : Json.readText (unifyLineEnds text).length (unifyLineEnds text) with
    | error e =>
      rw [hjson] at hv
      cases hv
    | ok v' =>
      rw [hjson] at hv
      cases hv
      rfl
  have hnone : runtime.json.overflow? (String.ofList (unifyLineEnds text)) = none :=
    runtime.json.overflow?_eq_none _ (by rwa [String.toList_ofList])
  simpa [ofFile, ofAscii_asBytes h, ofText, Json.read, hnone, hjson, bind, Except.bind] using hr

/-- the text of a profile with one sentinel and sweeps of one address, in which the pattern for threads, the name of the
expected field and the timeout are spelled as given -/
def textWith (regex name timeout : String) : List Char :=
  ["\x7b\"version\": 1, \"thread_pattern\": \x7b", "\"name\": \"thread_id\", \"regex\": \"", regex,
    "\", \"group\": 1\x7d, \"object_pattern\": \x7b", "\"name\": \"waiting_on_MyLock\", ", "\"regex\": \"- waiting on ",
    "<0x([0-9a-fA-F]+)> \\\\(a MyLock\\\\)\", ", "\"group\": 1\x7d, ", "\"sentinel_addresses\": [\"0x0\"], ",
    "\"sweep\": \x7b\"lookback\": 0, ", "\"count\": 1\x7d, ", "\"sweep_thread_neighborhood\": ",
    "false, \"expected_field\": \x7b", "\"name\": \"", name, "\", \"type_tag\": \"I\", \"value\": 12345\x7d, ",
    "\"jcmd\": \x7b\"executable\": \"jcmd\", \"timeout_seconds\": ", timeout, "\x7d\x7d"].flatMap String.toList

theorem isAscii_textWith {regex name timeout : String} (hregex : isAscii regex.toList = true)
    (hname : isAscii name.toList = true) (htimeout : isAscii timeout.toList = true) :
    isAscii (textWith regex name timeout) = true := by
  unfold isAscii at *
  unfold textWith
  simp only [List.all_flatMap, List.all_cons, List.all_nil, hregex, hname, htimeout, Bool.true_and, Bool.and_true]
  decide +kernel

end Profile

end DebugFind
