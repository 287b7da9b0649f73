import DebugAdapter.Proofs.Json.Ordered
import DebugAdapter.Proofs.Path
import DebugAdapter.Proofs.Text.Utf8
import DebugAdapter.Settings
/-!
# Where the interpreter is found

A settings file that holds an object can be used if it names the interpreter under one key at most,
and if there are texts or `null` under that key and the one of the test files. The path that is named
is looked up below the home directory, or as it stands, or beside the settings file.
-/

namespace DebugAdapter

open Decode (Fields Passes)

namespace Settings

/-! ## Members -/

/-- The keys under which the interpreter's path may stand. -/
def pathKeys : List String := interpreterKey :: olderKeys

/-- The key of the test files. -/
def testFilesKey : String := "testFiles"

/-- Whether a value is a text or `null`. -/
def Textual (v : Json) : Prop := v = .null ∨ ∃ s, v = .string s

/-- Whether settings can be read from some members. -/
structure Fits (ms : List (String × Json)) : Prop where
  /-- The interpreter's path stands under one key at most. -/
  single : ∀ k ∈ pathKeys, ∀ k' ∈ pathKeys, k ∈ ms.map (·.1) → k' ∈ ms.map (·.1) → k = k'
  textual : ∀ m ∈ ms, m.1 ∈ testFilesKey :: pathKeys → Textual m.2

/-- Whether some members name the interpreter by a path. -/
def Names (ms : List (String × Json)) (path : String) : Prop :=
  ∃ k ∈ pathKeys, (k, .string path) ∈ ms

/-- Whether some members are the same to a reader of settings. -/
def Agree (ms ms' : List (String × Json)) : Prop :=
  ∀ k ∈ testFilesKey :: pathKeys, ∀ v, (k, v) ∈ ms ↔ (k, v) ∈ ms'

theorem presentKey_eq_interpreterKey {key : String} :
    presentKey key = interpreterKey ↔ key ∈ pathKeys := by
  unfold presentKey
  split
  · rename_i older
    exact iff_of_true rfl (.tail _ (List.contains_iff_mem.mp older))
  · rename_i present
    have other : key ∉ olderKeys := fun mem => present (List.contains_iff_mem.mpr mem)
    simp [pathKeys, other]

theorem presentKey_eq_testFilesKey {key : String} :
    presentKey key = testFilesKey ↔ key = testFilesKey := by
  unfold presentKey
  split
  · rename_i older
    refine iff_of_false (by decide) ?_
    rintro rfl
    revert older
    decide
  · rfl

/-! ## Reading -/

/-- The fields of the settings. -/
def fields : Fields Settings :=
  (Fields.pure Settings.mk).optional interpreterKey Decode.string
    |>.optional testFilesKey Decode.string

/-- A field as it is checked. -/
def rule (name : String) : Decode.FieldRule :=
  ⟨name, .optional, fun o d => (Decode.optional Decode.string o d).map fun _ => ()⟩

theorem rules_eq : fields.rules = [rule interpreterKey, rule testFilesKey] := rfl

theorem check_eq_ok (name : String) (v : Json) :
    (rule name).check .value (.ofJson v) = .ok () ↔ Textual v := by
  cases v with
  | null => exact iff_of_true rfl (.inl rfl)
  | string s => exact iff_of_true rfl (.inr ⟨s, rfl⟩)
  | bool | number | array | object => exact iff_of_false nofun (by simp [Textual])

theorem find?_rules (key : String) : fields.rules.find? (·.name = key) =
    if key ∈ [interpreterKey, testFilesKey] then some (rule key) else none := by
  rw [rules_eq]
  by_cases interpreter : key = interpreterKey
  · subst interpreter
    rfl
  · by_cases testFiles : key = testFilesKey
    · subst testFiles
      rfl
    · simp [rule, interpreter, testFiles, Ne.symm interpreter, Ne.symm testFiles]

/-- The members under their present keys. -/
def renamed (ms : List (String × Json)) : List (String × Json) :=
  ms.map fun (key, v) => (presentKey key, v)

theorem known_presentKey {key : String} :
    presentKey key ∈ [interpreterKey, testFilesKey] ↔ key ∈ testFilesKey :: pathKeys := by
  simp only [List.mem_cons, List.not_mem_nil, or_false, presentKey_eq_interpreterKey,
    presentKey_eq_testFilesKey]
  exact or_comm

section

variable {ms : List (String × Json)} (distinct : (ms.map (·.1)).Nodup)
include distinct

/-- None of the fields comes twice if the interpreter's path stands under one key at most. -/
theorem nodup_present : ((ms.filter fun m => m.1 ∈ testFilesKey :: pathKeys).map
      fun m => presentKey m.1).Nodup ↔
    ∀ k ∈ pathKeys, ∀ k' ∈ pathKeys, k ∈ ms.map (·.1) → k' ∈ ms.map (·.1) → k = k' := by
  rw [List.nodup_map_iff_inj_on ((List.Nodup.of_map _ distinct).filter _)]
  constructor
  · intro apart k path k' path' listed listed'
    obtain ⟨m, mem, rfl⟩ := List.mem_map.mp listed
    obtain ⟨m', mem', rfl⟩ := List.mem_map.mp listed'
    have known (key : String) (path : key ∈ pathKeys) : key ∈ testFilesKey :: pathKeys :=
      .tail _ path
    have same : presentKey m.1 = presentKey m'.1 :=
      (presentKey_eq_interpreterKey.mpr path).trans (presentKey_eq_interpreterKey.mpr path').symm
    exact congrArg (·.1) (apart m (List.mem_filter.mpr ⟨mem, decide_eq_true (known _ path)⟩)
      m' (List.mem_filter.mpr ⟨mem', decide_eq_true (known _ path')⟩) same)
  · intro single m listed m' listed' same
    obtain ⟨mem, known⟩ := List.mem_filter.mp listed
    obtain ⟨mem', -⟩ := List.mem_filter.mp listed'
    apply List.inj_on_of_nodup_map distinct mem mem'
    rcases List.mem_cons.mp (of_decide_eq_true known) with testFiles | path
    · have other := same.symm.trans (presentKey_eq_testFilesKey.mpr testFiles)
      exact testFiles.trans (presentKey_eq_testFilesKey.mp other).symm
    · have path' := presentKey_eq_interpreterKey.mp
        (same.symm.trans (presentKey_eq_interpreterKey.mpr path))
      exact single _ path _ path' (List.mem_map_of_mem mem) (List.mem_map_of_mem mem')

theorem passes_renamed : Passes .value fields.rules (renamed ms) ↔ Fits ms := by
  have known (key : String) : (fields.rules.find? (·.name = presentKey key)).isSome =
      decide (key ∈ testFilesKey :: pathKeys) := by
    rw [find?_rules, ← Bool.coe_iff_coe, decide_eq_true_iff, ← known_presentKey]
    split <;> simp_all
  have keys : ((renamed ms).map (·.1)).filter
        (fun key => (fields.rules.find? (·.name = key)).isSome) =
      (ms.filter fun m => m.1 ∈ testFilesKey :: pathKeys).map fun m => presentKey m.1 := by
    rw [renamed, List.map_map, List.filter_map]
    exact congrArg (List.map _) (List.filter_congr fun m _ => known m.1)
  constructor
  · rintro ⟨once, checked⟩
    refine ⟨(nodup_present distinct).mp (keys ▸ once), fun m mem known => ?_⟩
    refine (check_eq_ok (presentKey m.1) m.2).mp (checked (presentKey m.1, m.2) ?_ _ ?_)
    · exact List.mem_map.mpr ⟨m, mem, rfl⟩
    · rw [find?_rules, if_pos (known_presentKey.mpr known)]
  · rintro ⟨single, textual⟩
    refine ⟨keys ▸ (nodup_present distinct).mpr single, fun m listed rule found => ?_⟩
    obtain ⟨⟨key, v⟩, mem, rfl⟩ := List.mem_map.mp listed
    by_cases known : presentKey key ∈ [interpreterKey, testFilesKey]
    · rw [find?_rules, if_pos known] at found
      cases found
      exact (check_eq_ok _ _).mpr (textual (key, v) mem (known_presentKey.mp known))
    · rw [find?_rules, if_neg known] at found
      cases found

theorem lookup_renamed (fits : Fits ms) {key : String}
    (known : key ∈ [interpreterKey, testFilesKey]) {v : Json} :
    (renamed ms).lookup key = some v ↔ (key, v) ∈ renamed ms := by
  refine (Table.mem_iff_lookup_known ((passes_renamed distinct).mpr fits).once ?_).symm
  rw [find?_rules, if_pos known]
  rfl

end

theorem mem_renamed_interpreterKey {ms : List (String × Json)} {v : Json} :
    (interpreterKey, v) ∈ renamed ms ↔ ∃ k ∈ pathKeys, (k, v) ∈ ms := by
  simp only [renamed, List.mem_map, Prod.mk.injEq, Prod.exists]
  constructor
  · rintro ⟨k, v, mem, present, rfl⟩
    exact ⟨k, presentKey_eq_interpreterKey.mp present, mem⟩
  · rintro ⟨k, path, mem⟩
    exact ⟨k, v, mem, presentKey_eq_interpreterKey.mpr path, rfl⟩

theorem mem_renamed_testFilesKey {ms : List (String × Json)} {v : Json} :
    (testFilesKey, v) ∈ renamed ms ↔ (testFilesKey, v) ∈ ms := by
  simp only [renamed, List.mem_map, Prod.mk.injEq, Prod.exists]
  constructor
  · rintro ⟨k, v, mem, present, rfl⟩
    exact presentKey_eq_testFilesKey.mp present ▸ mem
  · intro mem
    exact ⟨testFilesKey, v, mem, presentKey_eq_testFilesKey.mpr rfl, rfl⟩

/-- The text that a value is, if it is one. -/
def textOf? : Option Json → Option String
  | some (.string s) => some s
  | _ => none

theorem textOf?_eq_some {v : Option Json} {s : String} :
    textOf? v = some s ↔ v = some (.string s) := by
  unfold textOf?
  split
  · simp [eq_comm]
  · rename_i other
    refine iff_of_false nofun fun same => other s same

/-- The settings that some members hold. -/
def held (ms : List (String × Json)) : Settings where
  interpreterPath := textOf? ((renamed ms).lookup interpreterKey)
  testFiles := textOf? ((renamed ms).lookup testFilesKey)

theorem gives_text {β : Type} {before : Fields (Option String → β)} {f : Option String → β}
    {ms : List (String × Json)} (name : String)
    (earlier : before.Gives .value (Document.ofMembers ms) f)
    (textual : ∀ v, ms.lookup name = some v → Textual v) :
    (before.optional name Decode.string).Gives .value (Document.ofMembers ms)
      (f (textOf? (ms.lookup name))) := by
  have there := Decode.memberOf_ofMembers ms name
  cases found : ms.lookup name with
  | none =>
      rw [found] at there
      exact earlier.field_absent there (by decide)
  | some v =>
      rw [found] at there
      obtain rfl | ⟨s, rfl⟩ := textual v found
      · exact earlier.field there rfl
      · exact earlier.field there rfl

theorem decode_eq (ms : List (String × Json)) :
    Decode.fromJson decoder (withPresentKeys (.object ms)) =
      Decode.record "Settings" fields .value (.ofJson (.object (renamed ms))) := rfl

section

variable {ms : List (String × Json)} (distinct : (ms.map (·.1)).Nodup)
include distinct

theorem gives_held (fits : Fits ms) :
    fields.Gives .value (Document.ofMembers (renamed ms)) (held ms) := by
  have textual (key : String) (known : key ∈ [interpreterKey, testFilesKey]) (v : Json)
      (found : (renamed ms).lookup key = some v) : Textual v := by
    obtain ⟨⟨k, v⟩, mem, same⟩ := List.mem_map.mp ((lookup_renamed distinct fits known).mp found)
    cases same
    exact fits.textual (k, v) mem (known_presentKey.mp known)
  exact gives_text testFilesKey (gives_text interpreterKey (.pure Settings.mk)
    (textual _ (by decide))) (textual _ (by decide))

theorem ofJson_fits (fits : Fits ms) : ofJson (.object ms) = .ok (held ms) := by
  have read : Decode.record "Settings" fields .value (.ofJson (.object (renamed ms))) =
      .ok (held ms) :=
    Decode.record_eq_ok.mpr ⟨(passes_renamed distinct).mpr fits, (gives_held distinct fits).built⟩
  rw [ofJson, decode_eq, read]
  rfl

theorem ofJson_unfit (unfit : ¬ Fits ms) : ofJson (.object ms) = .error .decoding := by
  rw [ofJson, decode_eq]
  cases read : Decode.record "Settings" fields .value (.ofJson (.object (renamed ms))) with
  | error e => rfl
  | ok w =>
      obtain ⟨passes, -⟩ := Decode.record_eq_ok.mp read
      exact absurd ((passes_renamed distinct).mp passes) unfit

theorem held_interpreterPath (fits : Fits ms) (path : String) :
    (held ms).interpreterPath = some path ↔ Names ms path := by
  rw [held, textOf?_eq_some, lookup_renamed distinct fits (by decide), mem_renamed_interpreterKey]
  rfl

theorem held_testFiles (fits : Fits ms) (text : String) :
    (held ms).testFiles = some text ↔ (testFilesKey, .string text) ∈ ms := by
  rw [held, textOf?_eq_some, lookup_renamed distinct fits (by decide), mem_renamed_testFilesKey]

end

/-! ## Order and other keys -/

namespace Agree

variable {ms ms' : List (String × Json)} (agree : Agree ms ms')
include agree

theorem symm : Agree ms' ms := fun k known v => (agree k known v).symm

theorem keys {k : String} (known : k ∈ testFilesKey :: pathKeys) :
    k ∈ ms.map (·.1) ↔ k ∈ ms'.map (·.1) := by
  simp only [List.mem_map, Prod.exists, exists_and_right, exists_eq_right]
  exact exists_congr (agree k known)

theorem fits (fits : Fits ms) : Fits ms' where
  single k path k' path' mem mem' :=
    fits.single k path k' path' ((agree.keys (.tail _ path)).mpr mem)
      ((agree.keys (.tail _ path')).mpr mem')
  textual m mem known := fits.textual m ((agree m.1 known m.2).mpr mem) known

theorem names (path : String) : Names ms path ↔ Names ms' path :=
  exists_congr fun k => and_congr_right fun known => agree k (.tail _ known) (.string path)

/-- Settings do not depend on the order of the members, nor on those that are not read. -/
theorem ofJson (distinct : (ms.map (·.1)).Nodup) (distinct' : (ms'.map (·.1)).Nodup) :
    ofJson (.object ms) = ofJson (.object ms') := by
  by_cases fit : Fits ms
  · have fit' := agree.fits fit
    have path : (held ms).interpreterPath = (held ms').interpreterPath := by
      refine Option.ext fun path => ?_
      rw [held_interpreterPath distinct fit, held_interpreterPath distinct' fit', agree.names]
    have testFiles : (held ms).testFiles = (held ms').testFiles := by
      refine Option.ext fun text => ?_
      rw [held_testFiles distinct fit, held_testFiles distinct' fit', agree _ List.mem_cons_self]
    have same : held ms = held ms' := congrArg₂ Settings.mk path testFiles
    rw [ofJson_fits distinct fit, ofJson_fits distinct' fit', same]
  · rw [ofJson_unfit distinct fit, ofJson_unfit distinct' fun fit' => fit (agree.symm.fits fit')]

end Agree

end Settings

/-! ## Files -/

namespace Json.Relaxed

/-- An object that has been read has distinct keys. -/
theorem distinct_of_value {fuel : Nat} {ts rest : List Token} {ms : List (String × Json)}
    (read : value fuel ts = some (.object ms, rest)) : (ms.map (·.1)).Nodup := by
  cases fuel with
  | zero => cases read
  | succ fuel =>
      cases ts with
      | nil => cases read
      | cons t ts =>
          cases t with
          | braceOpen =>
              obtain ⟨⟨members, rest'⟩, -, same⟩ := Option.map_eq_some_iff.mp read
              cases same
              exact (sorted_sortMembers members).imp String.ne_of_lt
          | bracketOpen =>
              obtain ⟨⟨items, rest'⟩, -, same⟩ := Option.map_eq_some_iff.mp read
              cases same
          | number text =>
              rw [value, numberValue] at read
              split at read <;> cases read
          | braceClose | bracketClose | comma | colon | string | word | bool | null => cases read

theorem distinct_of_text {s : String} {ms : List (String × Json)}
    (read : ofText? s = some (some (.object ms))) : (ms.map (·.1)).Nodup := by
  obtain ⟨ts, -, read⟩ := Option.bind_eq_some_iff.mp read
  split at read
  · cases read
  · obtain ⟨⟨v, rest⟩, read, same⟩ := Option.bind_eq_some_iff.mp read
    cases rest with
    | nil =>
        cases same
        exact distinct_of_value read
    | cons => cases same

end Json.Relaxed

namespace SettingsFile

/-- Whether a settings file holds an object with some members. -/
def Holds (file : SettingsFile) (ms : List (String × Json)) : Prop :=
  ∃ bs s, file.contents = some bs ∧ Utf8.decode? bs = some s ∧
    Json.Relaxed.ofText? s = some (some (.object ms))

section

variable {file : SettingsFile} {ms : List (String × Json)}

theorem Holds.distinct (holds : file.Holds ms) : (ms.map (·.1)).Nodup := by
  obtain ⟨bs, s, -, -, read⟩ := holds
  exact Json.Relaxed.distinct_of_text read

theorem Holds.load (holds : file.Holds ms) :
    file.load = (Settings.ofJson (.object ms)).mapError .file := by
  obtain ⟨bs, s, contents, text, read⟩ := holds
  rw [SettingsFile.load, contents]
  dsimp only
  rw [Settings.ofBytes, text]
  dsimp only
  rw [Settings.ofText, read]

theorem Holds.load_fits (holds : file.Holds ms) (fits : Settings.Fits ms) :
    file.load = .ok (Settings.held ms) := by
  rw [holds.load, Settings.ofJson_fits holds.distinct fits]
  rfl

theorem Holds.load_unfit (holds : file.Holds ms) (unfit : ¬ Settings.Fits ms) :
    file.load = .error (.file .decoding) := by
  rw [holds.load, Settings.ofJson_unfit holds.distinct unfit]
  rfl

theorem Holds.load_eq_ok (holds : file.Holds ms) :
    (∃ settings, file.load = .ok settings) ↔ Settings.Fits ms := by
  by_cases fits : Settings.Fits ms
  · exact iff_of_true ⟨_, holds.load_fits fits⟩ fits
  · refine iff_of_false ?_ fits
    rintro ⟨settings, read⟩
    rw [holds.load_unfit fits] at read
    cases read

/-- The interpreter is where the path leads that the members name. -/
theorem Holds.interpreterPath? (holds : file.Holds ms) (env : Environment) {result : String} :
    file.interpreterPath? env = some result ↔
      Settings.Fits ms ∧ ∃ path, Settings.Names ms path ∧ file.resolve env path = result := by
  by_cases fits : Settings.Fits ms
  · rw [SettingsFile.interpreterPath?, holds.load_fits fits]
    dsimp only
    rw [Option.map_eq_some_iff, and_iff_right fits]
    exact exists_congr fun path =>
      and_congr_left' (Settings.held_interpreterPath holds.distinct fits path)
  · refine iff_of_false ?_ fun found => fits found.1
    rw [SettingsFile.interpreterPath?, holds.load_unfit fits]
    nofun

end

/-- Where a configured path leads. -/
structure Resolved (env : Environment) (file : SettingsFile) (path result : String) : Prop where
  home : (Path.components path).head? = some ['~'] →
    ∃ rest, Path.components path = ['~'] :: Path.components rest ∧
      Path.isAbsolute rest = false ∧ result = Path.join env.home rest
  absolute : Path.isAbsolute path = true → result = path
  beside : (Path.components path).head? ≠ some ['~'] → Path.isAbsolute path = false →
    ∀ directory, Path.parent? file.path = some directory →
      Path.components directory = (Path.components file.path).dropLast ∧
        result = Path.join directory path
  /-- There is no directory where the path of the file is empty or the root. -/
  alone : (Path.components path).head? ≠ some ['~'] → Path.isAbsolute path = false →
    Path.parent? file.path = none →
      (Path.components file.path = [] ∨ Path.components file.path = [['/']]) ∧ result = path

theorem resolved (env : Environment) (file : SettingsFile) (path : String) :
    Resolved env file path (file.resolve env path) := by
  cases below : Path.belowHome? path with
  | some rest =>
      obtain ⟨whole, relative⟩ := Path.belowHome?_eq_some below
      have head : (Path.components path).head? = some ['~'] := by rw [whole, List.head?_cons]
      have result : file.resolve env path = Path.join env.home rest := by rw [resolve, below]
      refine ⟨fun _ => ⟨rest, whole, relative, result⟩, fun absolute => ?_,
        fun other => absurd head other, fun other => absurd head other⟩
      have root := Path.head?_components absolute
      rw [head] at root
      cases root
  | none =>
      have other := Path.belowHome?_eq_none below
      refine ⟨fun head => absurd head other, fun absolute => ?_,
        fun _ relative directory parent => ?_, fun _ relative parent => ?_⟩
      · simp only [resolve, below, absolute, if_true]
      · refine ⟨Path.components_parent? parent, ?_⟩
        simp only [resolve, below, relative, parent, Bool.false_eq_true, if_false]
      · refine ⟨Path.parent?_eq_none parent, ?_⟩
        simp only [resolve, below, relative, parent, Bool.false_eq_true, if_false]

theorem isAbsolute_resolve {env : Environment} {file : SettingsFile}
    (home : Path.isAbsolute env.home = true) (absolute : Path.isAbsolute file.path = true)
    (names : (Path.fileName? file.path).isSome = true) (path : String) :
    Path.isAbsolute (file.resolve env path) = true := by
  obtain ⟨directory, parent⟩ := Option.isSome_iff_exists.mp (Path.parent?_isSome names)
  unfold resolve
  split
  · exact Path.isAbsolute_join home _
  · split
    · assumption
    · rw [parent]
      exact Path.isAbsolute_join (Path.isAbsolute_parent? absolute parent) path

/-- The settings of a file that holds an object, and the interpreter that they name. -/
theorem interpreter_found (env : Environment) (home : Path.isAbsolute env.home = true)
    {file : SettingsFile} {ms : List (String × Json)} (holds : file.Holds ms) :
    ((∃ settings, file.load = .ok settings) ↔ Settings.Fits ms) ∧
    (∀ ms', (ms'.map (·.1)).Nodup → Settings.Agree ms ms' →
      file.load = (Settings.ofJson (.object ms')).mapError .file) ∧
    (file.interpreterPath? env = none ↔
      (∀ settings, file.load ≠ .ok settings) ∨ ∀ path, ¬ Settings.Names ms path) ∧
    (∀ settings, file.load = .ok settings → ∀ path, Settings.Names ms path →
      ∃ result, file.interpreterPath? env = some result ∧ Resolved env file path result) ∧
    (Path.isAbsolute file.path = true → (Path.fileName? file.path).isSome = true →
      ∀ result, file.interpreterPath? env = some result → Path.isAbsolute result = true) := by
  refine ⟨holds.load_eq_ok, fun ms' distinct' agree => ?_, ?_, fun settings loads path named => ?_,
    fun absolute names result found => ?_⟩
  · rw [holds.load, agree.ofJson holds.distinct distinct']
  · rw [← not_exists, holds.load_eq_ok, Option.eq_none_iff_forall_ne_some]
    simp only [ne_eq, holds.interpreterPath? env]
    constructor
    · intro none_
      by_contra some_
      obtain ⟨fits, named⟩ := not_or.mp some_
      obtain ⟨path, named⟩ := not_forall_not.mp named
      exact none_ _ ⟨not_not.mp fits, path, named, rfl⟩
    · rintro (unfit | unnamed) result ⟨fits, path, named, -⟩
      · exact unfit fits
      · exact unnamed path named
  · have fits := holds.load_eq_ok.mp ⟨settings, loads⟩
    exact ⟨_, (holds.interpreterPath? env).mpr ⟨fits, path, named, rfl⟩, resolved env file path⟩
  · obtain ⟨-, path, -, rfl⟩ := (holds.interpreterPath? env).mp found
    exact isAbsolute_resolve home absolute names path

/-- A text with a comment and an older key. -/
def commented : String := "// here\n\x7b\"cmdPath\": \"~//bin/dap/\", \"a\": null\x7d"

theorem ofText?_commented : Json.Relaxed.ofText? commented =
    some (some (.object [("a", .null), ("cmdPath", .string "~//bin/dap/")])) := by
  have tokens : Json.Relaxed.tokens commented.toList = some [.braceOpen, .string "cmdPath", .colon,
      .string "~//bin/dap/", .comma, .string "a", .colon, .null, .braceClose] := by decide +kernel
  rw [Json.Relaxed.ofText?, tokens]
  rfl

/-- The interpreter is found below the home directory. -/
theorem interpreter_found_commented :
    let file : SettingsFile :=
      { path := "/etc/dap/settings.json", contents := some (Utf8.encode commented) }
    (∃ settings, file.load = .ok settings) ∧
      file.interpreterPath? { home := "/home/me" } = some "/home/me/bin/dap" ∧
      ∃ result, file.interpreterPath? { home := "/home/me" } = some result ∧
        Resolved { home := "/home/me" } file "~//bin/dap/" result := by
  intro file
  have holds : file.Holds [("a", .null), ("cmdPath", .string "~//bin/dap/")] :=
    ⟨_, commented, rfl, Utf8.decode?_encode _, ofText?_commented⟩
  have found := interpreter_found { home := "/home/me" } (by decide +kernel) holds
  have loads : file.load = .ok { interpreterPath := some "~//bin/dap/" } := holds.load.trans rfl
  exact ⟨⟨_, loads⟩, by decide +kernel, found.2.2.2.1 _ loads _ ⟨"cmdPath", by decide, by simp⟩⟩

end SettingsFile

end DebugAdapter
