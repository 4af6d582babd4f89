import Mathlib
import PayRun.Proofs.Quotes
import PayRun.Settings

/-!
# Where a setting comes from

The layers of the settings, said without the search for them.  A search selects the first of its paths under which
there is a file (`Settings.Selects`), and reads it or gives up.  The file of the second search is active if it can be
read, else that of the first, else there is none (`Settings.Active`).  A setting is that of its variable, that of its
key in the active file, or its default, in this order (`Settings.Layered`).

The settings of every folder and environment come from these layers.  Two files are never mixed, and a file that
cannot be read does as little as no file at all (`Settings.load_layered`).
-/

namespace PayRun

/-! ### Keys in a file -/

private theorem Text.mapChar_lowerRuns {c : Char} (h : c.toNat < 0x80) :
    mapChar lowerRuns c = mapChar (lowerRuns.take 1) c := by
  -- all runs but that of the capital letters lie above
  have hlater : ∀ r ∈ lowerRuns.drop 1, 0x80 ≤ r.first := by decide +kernel
  have hnone : (lowerRuns.drop 1).find? (·.holds c.toNat) = none := by
    rw [List.find?_eq_none]
    intro r hr
    have hfirst := hlater r hr
    simp only [CaseRun.holds, Bool.and_eq_true, decide_eq_true_eq]
    omega
  have hfind : lowerRuns.find? (·.holds c.toNat) = (lowerRuns.take 1).find? (·.holds c.toNat) := by
    rw [← List.take_append_drop 1 lowerRuns, List.find?_append, hnone, Option.or_none]
    rfl
  rw [mapChar, mapChar, hfind]

theorem Text.lower_of_ascii {t : Text} (h : ∀ b ∈ t, b < 0x80) : lower t = smallLetters t := by
  have hchar : ∀ b : UInt8, b < 0x80 → (Char.ofNat b.toNat).toNat < 0x80 ∧
      ofChar (mapChar (lowerRuns.take 1) (Char.ofNat b.toNat)) = [smallLetter b] := by decide +kernel
  rw [lower, mapChars, pieces_of_ascii h, List.flatMap_map, smallLetters, List.map_eq_flatMap]
  refine List.flatMap_congr fun b hb => ?_
  obtain ⟨hascii, hmap⟩ := hchar b (h b hb)
  dsimp only
  rw [mapChar_lowerRuns hascii, hmap]

namespace Dotenv

/-- The value that a file gives to a key in small letters.  Of its spellings one with a capital letter counts, if
there is any, and of the lines with that spelling the last one. -/
def Sets (d : Dotenv) (key value : Text) : Prop :=
  (∃ k, Text.smallLetters k = key ∧ k ≠ key ∧ d.assignments.lookup k = some value) ∨
    (d.assignments.lookup key = some value ∧ ∀ k v, (k, v) ∈ d.assignments → Text.smallLetters k = key → k = key)

private theorem isKeyByte_of_keyAndValue? {t key value : Text} (h : keyAndValue? t = some (key, value)) :
    key.all isKeyByte = true := by
  have hkey : (t.takeWhile isKeyByte).all isKeyByte = true := List.all_takeWhile
  unfold keyAndValue? at h
  dsimp only at h
  split at h
  · cases h
  · split at h
    · split at h
      · obtain ⟨v, -, hv⟩ := Option.map_eq_some_iff.1 h
        cases hv
        exact hkey
      · split at h
        · obtain ⟨v, -, hv⟩ := Option.map_eq_some_iff.1 h
          cases hv
          exact hkey
        · cases h
    · cases h

private theorem isKeyByte_of_assignment? {line key value : Text} (h : assignment? line = some (key, value)) :
    key.all isKeyByte = true := by
  unfold assignment? at h
  dsimp only at h
  split at h
  · rename_i a ha
    cases h
    obtain ⟨t, -, ht⟩ := Option.bind_eq_some_iff.1 ha
    exact isKeyByte_of_keyAndValue? ht
  · exact isKeyByte_of_keyAndValue? h

/-- Keys that can be assigned to. -/
def KeysReadable (d : Dotenv) : Prop := ∀ k v, (k, v) ∈ d.assignments → k.all isKeyByte = true

private theorem keysReadable_assign {env : Environment} {d d' : Dotenv} {line : Text} (h : d.KeysReadable)
    (hassign : d.assign env line = some d') : d'.KeysReadable := by
  obtain ⟨⟨key, written⟩, hline, hd'⟩ := Option.bind_eq_some_iff.1 hassign
  cases hd'
  intro k v hkv
  rcases List.mem_cons.1 hkv with heq | hkv
  · cases heq
    exact isKeyByte_of_assignment? hline
  · exact h k v hkv

private theorem keysReadable_foldlM {env : Environment} {d d' : Dotenv} {lines : List Text} (h : d.KeysReadable)
    (hfold : lines.foldlM (assign env) d = some d') : d'.KeysReadable := by
  induction lines generalizing d with
  | nil =>
    cases hfold
    exact h
  | cons line rest ih =>
    obtain ⟨next, hnext, hrest⟩ := Option.bind_eq_some_iff.1 hfold
    exact ih (keysReadable_assign h hnext) hrest

private theorem keysReadable_of_parse {env : Environment} {file : Text} {d : Dotenv} (h : parse env file = some d) :
    d.KeysReadable := by
  obtain ⟨lines, -, hfold⟩ := Option.bind_eq_some_iff.1 h
  have hnone : KeysReadable ⟨[]⟩ := by
    intro k v hkv
    cases hkv
  exact keysReadable_foldlM hnone hfold

private theorem KeysReadable.lower_eq {d : Dotenv} (h : d.KeysReadable) {k v : Text} (hkv : (k, v) ∈ d.assignments) :
    Text.lower k = Text.smallLetters k := by
  have hascii : ∀ b : UInt8, isKeyByte b = true → b < 0x80 := by decide +kernel
  exact Text.lower_of_ascii fun b hb => hascii b (List.all_eq_true.1 (h k v hkv) b hb)

private theorem lookup_of_find? {l : List (Text × Text)} {p : Text → Bool} {k v : Text}
    (h : l.find? (fun a => p a.1) = some (k, v)) : l.lookup k = some v := by
  have hk : p k = true := List.find?_some (p := fun a : Text × Text => p a.1) h
  induction l with
  | nil => cases h
  | cons a l ih =>
    obtain ⟨k', v'⟩ := a
    by_cases hk' : p k' = true
    · rw [List.find?_cons_of_pos (by exact hk')] at h
      cases h
      exact List.lookup_cons_self
    · rw [List.find?_cons_of_neg (by exact hk')] at h
      have hne : (k == k') = false := by
        rw [beq_eq_false_iff_ne]
        rintro rfl
        exact hk' hk
      rw [List.lookup_cons, hne]
      exact ih h

private theorem lookup_filter {α : Type} {l : List (Text × α)} {p : Text → Bool} {key : Text} (hkey : p key = true) :
    (l.filter fun a => p a.1).lookup key = l.lookup key := by
  induction l with
  | nil => rfl
  | cons a l ih =>
    obtain ⟨k, v⟩ := a
    by_cases hk : p k = true
    · rw [List.filter_cons_of_pos (by exact hk), List.lookup_cons, List.lookup_cons, ih]
    · have hne : (key == k) = false := by
        rw [beq_eq_false_iff_ne]
        rintro rfl
        exact hk hkey
      rw [List.filter_cons_of_neg (by exact hk), ih, List.lookup_cons, hne]

private theorem get?_eq (d : Dotenv) {key : Text} (hkey : Text.lower key = key) :
    d.get? key = ((d.assignments.find? fun a => decide (Text.lower a.1 = key ∧ a.1 ≠ key)).map Prod.snd).or
      (d.assignments.lookup key) := by
  have hself : (d.assignments.filter fun a => decide (Text.lower a.1 = key)).lookup key = d.assignments.lookup key :=
    lookup_filter (p := fun k => decide (Text.lower k = key)) (decide_eq_true hkey)
  unfold get?
  simp only [List.find?_filter, hself, decide_eq_true_eq]
  split
  · rename_i hfound
    rw [hfound]
    rfl
  · rename_i hfound
    rw [hfound]
    rfl

private theorem sets_of_get? {d : Dotenv} (h : d.KeysReadable) {key value : Text} (hkey : Text.lower key = key)
    (hget : d.get? key = some value) : d.Sets key value := by
  rw [get?_eq d hkey] at hget
  cases hfound : d.assignments.find? fun a => decide (Text.lower a.1 = key ∧ a.1 ≠ key) with
  | some a =>
    obtain ⟨k, v⟩ := a
    rw [hfound] at hget
    cases hget
    have hspelling := List.find?_some hfound
    obtain ⟨hlower, hne⟩ := of_decide_eq_true hspelling
    left
    refine ⟨k, ?_, hne, lookup_of_find? (p := fun k => decide (Text.lower k = key ∧ k ≠ key)) hfound⟩
    rw [← h.lower_eq (List.mem_of_find?_eq_some hfound)]
    exact hlower
  | none =>
    rw [hfound] at hget
    right
    refine ⟨hget, ?_⟩
    intro k v hkv hsmall
    by_contra hne
    have hnot := List.find?_eq_none.1 hfound (k, v) hkv
    simp [h.lower_eq hkv, hsmall, hne] at hnot

private theorem not_sets_of_get? {d : Dotenv} (h : d.KeysReadable) {key : Text} (hkey : Text.lower key = key)
    (hget : d.get? key = none) (value : Text) : ¬ d.Sets key value := by
  rw [get?_eq d hkey, Option.or_eq_none_iff, Option.map_eq_none_iff] at hget
  obtain ⟨hfound, hlookup⟩ := hget
  rintro (⟨k, hsmall, hne, hk⟩ | ⟨hk, -⟩)
  · have hkv : (k, value) ∈ d.assignments := by
      obtain ⟨l, l', hsplit, -⟩ := List.lookup_eq_some_iff.1 hk
      rw [hsplit]
      simp
    have hnot := List.find?_eq_none.1 hfound (k, value) hkv
    simp [h.lower_eq hkv, hsmall, hne] at hnot
  · rw [hlookup] at hk
    cases hk

end Dotenv

/-! ### The active file -/

namespace Settings

/-- What may follow the base name of a file with settings, in the order in which it is tried. -/
def endings : List Text :=
  [".json", ".toml", ".yaml", ".yml", ".properties", ".props", ".prop", ".hcl", ".tfvars", ".dotenv", ".env", ".ini",
    ""]

/-- The paths of a search for a base name, folder by folder. -/
def paths (folders : List Text) (base : Text) : List Text :=
  folders.flatMap fun folder => endings.map fun ending => folder ++ base ++ ending

def firstPaths : List Text := paths [""] ".env"

def secondPaths : List Text := paths ["", "config/"] "config"

private theorem firstSearch_eq : firstSearch = firstPaths := by decide

private theorem secondSearch_eq : secondSearch = secondPaths := by decide

/-- The first of some paths under which there is a file, and what it holds.  A folder is no file. -/
def Selects (folder : Folder) (search : List Text) (path content : Text) : Prop :=
  ∃ before after, search = before ++ path :: after ∧ folder.lookup path = some (.file content) ∧
    ∀ p ∈ before, ∀ c, folder.lookup p ≠ some (.file c)

/-- The file that a search selects can be read. -/
def Reads (folder : Folder) (env : Environment) (search : List Text) (d : Dotenv) : Prop :=
  ∃ path content, Selects folder search path content ∧ Dotenv.parse env content = some d

/-- The file that counts, if there is one. -/
inductive Active (folder : Folder) (env : Environment) : Option Dotenv → Prop where
  | second {d : Dotenv} (h : Reads folder env secondPaths d) : Active folder env (some d)
  | first {d : Dotenv} (hsecond : ∀ d, ¬ Reads folder env secondPaths d) (h : Reads folder env firstPaths d) :
      Active folder env (some d)
  | none (hsecond : ∀ d, ¬ Reads folder env secondPaths d) (hfirst : ∀ d, ¬ Reads folder env firstPaths d) :
      Active folder env none

private theorem content?_eq_some_iff {folder : Folder} {path content : Text} :
    folder.content? path = some content ↔ folder.lookup path = some (.file content) := by
  unfold Folder.content?
  split
  · rename_i hfile
    simp [hfile]
  · rename_i hother
    simp only [reduceCtorEq, false_iff]
    exact hother content

private theorem findSome?_content?_iff {folder : Folder} {search : List Text} {content : Text} :
    search.findSome? folder.content? = some content ↔ ∃ path, Selects folder search path content := by
  have hnone (p : Text) : folder.content? p = none ↔ ∀ c, folder.lookup p ≠ some (.file c) := by
    rw [Option.eq_none_iff_forall_ne_some]
    simp only [ne_eq, content?_eq_some_iff]
  rw [List.findSome?_eq_some_iff]
  simp only [content?_eq_some_iff, hnone]
  constructor
  · rintro ⟨before, path, after, h⟩
    exact ⟨path, before, after, h⟩
  · rintro ⟨path, before, after, h⟩
    exact ⟨before, path, after, h⟩

private theorem readFirst?_eq_some_iff {folder : Folder} {env : Environment} {search : List Text} {d : Dotenv} :
    readFirst? folder env search = some d ↔ Reads folder env search d := by
  unfold readFirst?
  rw [Option.bind_eq_some_iff]
  simp only [findSome?_content?_iff]
  constructor
  · rintro ⟨content, ⟨path, hselects⟩, hparse⟩
    exact ⟨path, content, hselects, hparse⟩
  · rintro ⟨path, content, hselects, hparse⟩
    exact ⟨content, ⟨path, hselects⟩, hparse⟩

private theorem readFirst?_eq_none_iff {folder : Folder} {env : Environment} {search : List Text} :
    readFirst? folder env search = none ↔ ∀ d, ¬ Reads folder env search d := by
  rw [Option.eq_none_iff_forall_ne_some]
  simp only [ne_eq, readFirst?_eq_some_iff]

private theorem active_iff {folder : Folder} {env : Environment} {active : Option Dotenv} :
    Active folder env active ↔
      active = (readFirst? folder env secondSearch).or (readFirst? folder env firstSearch) := by
  rw [secondSearch_eq, firstSearch_eq]
  constructor
  · rintro (hsecond | ⟨hsecond, hfirst⟩ | ⟨hsecond, hfirst⟩)
    · rw [readFirst?_eq_some_iff.2 hsecond]
      rfl
    · rw [readFirst?_eq_none_iff.2 hsecond, readFirst?_eq_some_iff.2 hfirst]
      rfl
    · rw [readFirst?_eq_none_iff.2 hsecond, readFirst?_eq_none_iff.2 hfirst]
      rfl
  · rintro rfl
    cases hsecond : readFirst? folder env secondPaths with
    | some d => exact .second (readFirst?_eq_some_iff.1 hsecond)
    | none =>
      cases hfirst : readFirst? folder env firstPaths with
      | some d => exact .first (readFirst?_eq_none_iff.1 hsecond) (readFirst?_eq_some_iff.1 hfirst)
      | none => exact .none (readFirst?_eq_none_iff.1 hsecond) (readFirst?_eq_none_iff.1 hfirst)

private theorem Active.keysReadable {folder : Folder} {env : Environment} {d : Dotenv}
    (h : Active folder env (some d)) :
    d.KeysReadable := by
  cases h with
  | second h =>
    obtain ⟨-, content, -, hparse⟩ := h
    exact Dotenv.keysReadable_of_parse hparse
  | first _ h =>
    obtain ⟨-, content, -, hparse⟩ := h
    exact Dotenv.keysReadable_of_parse hparse

end Settings

/-! ### Settings -/

/-- The settings by name. -/
inductive Setting where
  | environment
  | name
  | threshold
  deriving DecidableEq, Repr

namespace Setting

def variableName : Setting → Text
  | environment => "APP_ENV"
  | name => "APP_NAME"
  | threshold => "LOG_LEVEL"

def key : Setting → Text
  | environment => "app_env"
  | name => "app_name"
  | threshold => "log_level"

def fallback : Setting → Text
  | environment => "development"
  | name => "payroll-demo"
  | threshold => "info"

private theorem lower_names (x : Setting) : Text.lower x.variableName = x.key ∧ Text.lower x.key = x.key := by
  cases x <;> decide +kernel

end Setting

/-- The folder without what stands under some paths. -/
def Folder.without (folder : Folder) (paths : List Text) : Folder := folder.filter fun x => !paths.contains x.1

namespace Settings

def get (s : Settings) : Setting → Text
  | .environment => s.environment
  | .name => s.name
  | .threshold => s.threshold

/-- The value of a setting by the layers: a variable that is not empty, a key of the active file even if its value is
empty, the fallback. -/
inductive Layered (env : Environment) (active : Option Dotenv) (x : Setting) : Text → Prop where
  | ofVariable {v : Text} (hset : env.lookup x.variableName = some v) (hne : v ≠ []) : Layered env active x v
  | ofFile {d : Dotenv} {v : Text} (hunset : ∀ v, env.lookup x.variableName = some v → v = [])
      (hactive : active = some d) (hset : d.Sets x.key v) : Layered env active x v
  | ofFallback (hunset : ∀ v, env.lookup x.variableName = some v → v = [])
      (hmissing : ∀ d, active = some d → ∀ v, ¬ d.Sets x.key v) : Layered env active x x.fallback

private theorem layered_value {folder : Folder} {env : Environment} {active : Option Dotenv}
    (h : Active folder env active) (x : Setting) :
    Layered env active x (value env (activeFile folder env) x.variableName x.fallback) := by
  have hfile : activeFile folder env = active.getD ⟨[]⟩ := by rw [activeFile, ← active_iff.1 h]
  rw [value, x.lower_names.1, hfile]
  cases hvariable : env.nonempty? x.variableName with
  | some v =>
    obtain ⟨hset, hne⟩ := Option.filter_eq_some_iff.1 hvariable
    exact .ofVariable hset (by simpa using hne)
  | none =>
    have hunset : ∀ v, env.lookup x.variableName = some v → v = [] := by
      intro v hv
      have hnot := Option.filter_eq_none_iff.1 hvariable v hv
      simpa using hnot
    rw [Option.none_or]
    cases active with
    | none =>
      refine .ofFallback hunset ?_
      intro d hd
      cases hd
    | some d =>
      rw [Option.getD_some]
      cases hget : d.get? x.key with
      | some v => exact .ofFile hunset rfl (Dotenv.sets_of_get? h.keysReadable x.lower_names.2 hget)
      | none =>
        refine .ofFallback hunset ?_
        intro d' hd'
        cases hd'
        exact Dotenv.not_sets_of_get? h.keysReadable x.lower_names.2 hget

private theorem get_load (folder : Folder) (env : Environment) (x : Setting) :
    (load folder env).get x =
      let v := value env (activeFile folder env) x.variableName x.fallback
      if x = .threshold then Text.lower v else v := by
  cases x <;> rfl

/-! ### Other folders -/

private theorem load_congr {folder other : Folder} {env : Environment}
    (h : activeFile other env = activeFile folder env) : load other env = load folder env := by
  rw [load, load, h]

private theorem readFirst?_of_selects {folder : Folder} {env : Environment} {search : List Text} {path content : Text}
    (h : Selects folder search path content) : readFirst? folder env search = Dotenv.parse env content := by
  rw [readFirst?, findSome?_content?_iff.2 ⟨path, h⟩, Option.bind_some]

/-- A search looks under its own paths only. -/
private theorem readFirst?_congr {folder other : Folder} {search : List Text}
    (h : ∀ p ∈ search, other.lookup p = folder.lookup p) (env : Environment) :
    readFirst? other env search = readFirst? folder env search := by
  have hcontent : search.findSome? other.content? = search.findSome? folder.content? := by
    induction search with
    | nil => rfl
    | cons p search ih =>
      have hp : other.content? p = folder.content? p := by rw [Folder.content?, Folder.content?, h p (by simp)]
      rw [List.findSome?_cons, List.findSome?_cons, hp, ih fun q hq => h q (by simp [hq])]
  rw [readFirst?, readFirst?, hcontent]

private theorem lookup_without_of_not_mem {folder : Folder} {paths : List Text} {p : Text} (h : p ∉ paths) :
    (folder.without paths).lookup p = folder.lookup p :=
  Dotenv.lookup_filter (p := fun k => !paths.contains k) (by simpa using h)

private theorem readFirst?_without_self (folder : Folder) (env : Environment) (search : List Text) :
    readFirst? (folder.without search) env search = none := by
  rw [readFirst?_eq_none_iff]
  rintro d ⟨path, content, ⟨before, after, hsearch, hfile, -⟩, -⟩
  obtain ⟨l, l', hsplit, -⟩ := List.lookup_eq_some_iff.1 hfile
  have hmem : (path, Folder.Entry.file content) ∈ folder.without search := by
    rw [hsplit]
    simp
  have hpath : path ∉ search := by simpa using (List.mem_filter.1 hmem).2
  exact hpath (hsearch ▸ by simp)

private theorem firstPaths_disjoint : ∀ p ∈ firstPaths, p ∉ secondPaths := by decide

/-- The settings come from the layers.  Nothing of the first file is seen if the second can be read, and a file
that was selected and cannot be read changes nothing: the search might as well have had no paths to look under. -/
theorem load_layered (folder : Folder) (env : Environment) :
    (∃ active, Active folder env active ∧ (∀ other, Active folder env other → other = active) ∧
      ∀ x : Setting, ∃ v, Layered env active x v ∧
        (load folder env).get x = if x = .threshold then Text.lower v else v) ∧
    (∀ path content d, Selects folder secondPaths path content → Dotenv.parse env content = some d →
      ∀ other : Folder, (∀ p ∈ secondPaths, other.lookup p = folder.lookup p) →
        load other env = load folder env) ∧
    (∀ path content, Selects folder secondPaths path content → Dotenv.parse env content = none →
      load (folder.without secondPaths) env = load folder env) ∧
    (∀ path content, Selects folder firstPaths path content → Dotenv.parse env content = none →
      load (folder.without firstPaths) env = load folder env) := by
  refine ⟨?_, ?_, ?_, ?_⟩
  · have hactive :=
      active_iff.2 (Eq.refl ((readFirst? folder env secondSearch).or (readFirst? folder env firstSearch)))
    refine ⟨_, hactive, fun other hother => active_iff.1 hother, ?_⟩
    intro x
    exact ⟨_, layered_value hactive x, get_load folder env x⟩
  · intro path content d hselects hparse other hagree
    apply load_congr
    have hread := (readFirst?_of_selects hselects).trans hparse
    rw [activeFile, activeFile, secondSearch_eq, readFirst?_congr hagree, hread]
    rfl
  · intro path content hselects hparse
    apply load_congr
    have hread := (readFirst?_of_selects hselects).trans hparse
    have hfirst : readFirst? (folder.without secondPaths) env firstPaths = readFirst? folder env firstPaths :=
      readFirst?_congr (fun p hp => lookup_without_of_not_mem (firstPaths_disjoint p hp)) env
    rw [activeFile, activeFile, secondSearch_eq, firstSearch_eq, readFirst?_without_self, hread, hfirst]
  · intro path content hselects hparse
    apply load_congr
    have hread := (readFirst?_of_selects hselects).trans hparse
    have hsecond : readFirst? (folder.without firstPaths) env secondPaths = readFirst? folder env secondPaths :=
      readFirst?_congr (fun p hp => lookup_without_of_not_mem fun hp' => firstPaths_disjoint p hp' hp) env
    rw [activeFile, activeFile, secondSearch_eq, firstSearch_eq, readFirst?_without_self, hread, hsecond]

/-- A file `config.json` that is no dotenv file hides `config.env`, but not `.env`; a variable that is empty counts as
unset, and an empty value in the file does not. -/
theorem load_layered_hidden :
    let folder : Folder :=
      [(".env", .file "App_Name=one\nlog_level=\n"), ("config.json", .file "junk"),
        ("config.env", .file "APP_ENV=two\n")]
    let env : Environment := [("APP_NAME", ""), ("APP_ENV", "Staging")]
    Selects folder secondPaths "config.json" "junk" ∧
      load (folder.without secondPaths) env = load folder env ∧
      load folder env = ⟨"Staging", "one", ""⟩ := by
  intro folder env
  have hselects : Selects folder secondPaths "config.json" "junk" := ⟨[], secondPaths.tail, by decide, rfl, by simp⟩
  have hparse : Dotenv.parse env "junk" = none := by decide +kernel
  exact ⟨hselects, (load_layered folder env).2.2.1 _ _ hselects hparse, by decide +kernel⟩

end Settings

end PayRun
