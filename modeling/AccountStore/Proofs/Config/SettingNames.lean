/-
# AccountStore.Proofs.Config.SettingNames -- which names set which setting

The name of a variable, in small letters, is a section, an underscore and a key, or it
stands for itself (`settingName_cases`).  The names of sections have no underscore and
no point, so a text is put together from a section, one of the two and a key in one way
only (`joined_inj`): no section captures another's names, and no point stands where an
underscore was but behind the section.  Two names become one exactly if they are spelled
alike: but for the case of letters, and for this one place (`settingName_inj`).  Blanks
around a name are dropped before and after, which does not bring other names together
(`settingName_trimmedText`).
-/
import AccountStore.Proofs.Config.Layers
import AccountStore.Proofs.Text.Span

namespace AccountStore.Config

set_option autoImplicit false

/-! ## A section and a key in one name -/

/-- What may stand between a section and a key. -/
def isSeparator (c : Char) : Bool := c == '_' || c == '.'

theorem section_word :
    ∀ s ∈ sectionNames, ∀ c ∈ s.toList, isSeparator c = false ∧ Text.isBlank c = false := by
  have checked : sectionNames.all (fun s =>
      s.toList.all fun c => !isSeparator c && !Text.isBlank c) = true := by decide +kernel
  intro s known c stands
  simpa using List.all_eq_true.mp (List.all_eq_true.mp checked s known) c stands

theorem asciiLowerText_section : ∀ s ∈ sectionNames, asciiLowerText s = s := by decide +kernel

theorem toList_joined (s key : String) :
    (s ++ "_" ++ key).toList = s.toList ++ '_' :: key.toList ∧
      (s ++ "." ++ key).toList = s.toList ++ '.' :: key.toList := by
  simp [String.toList_append]

/-- **A name has one section, one separator behind it and one key.** -/
theorem joined_inj {s t : String} (hs : s ∈ sectionNames) (ht : t ∈ sectionNames) {c d : Char}
    (hc : isSeparator c = true) (hd : isSeparator d = true) {x y : List Char}
    (same : s.toList ++ c :: x = t.toList ++ d :: y) : s = t ∧ c = d ∧ x = y := by
  obtain ⟨sections, rest⟩ := Text.word_append_inj (p := fun c => !isSeparator c)
    (fun c stands => by simp [(section_word s hs c stands).1])
    (fun c stands => by simp [(section_word t ht c stands).1])
    (by simp [hc]) (by simp [hd]) same
  exact ⟨String.toList_inj.mp sections, rest⟩

theorem keyInSection?_eq_some_iff {name sectionName key : List Char} :
    keyInSection? name sectionName = some key ↔ name = sectionName ++ '_' :: key := by
  have behind : sectionName.length + 1 = (sectionName ++ ['_']).length := by simp
  rw [keyInSection?, behind, Text.after_beginning_iff, List.append_assoc, List.singleton_append]

theorem eq_joined_iff {name s key : String} :
    name = s ++ "_" ++ key ↔ keyInSection? name.toList s.toList = some key.toList := by
  rw [keyInSection?_eq_some_iff, ← (toList_joined s key).1, String.toList_inj]

/-! ## The name of a setting -/

/-- **A name is a section, an underscore and a key, or it stands for itself.** -/
theorem settingName_cases (k : String) :
    (∃ s ∈ sectionNames, ∃ key,
        asciiLowerText k = s ++ "_" ++ key ∧ settingName k = s ++ "." ++ key) ∨
      ((∀ s ∈ sectionNames, ∀ key, asciiLowerText k ≠ s ++ "_" ++ key) ∧
        settingName k = asciiLowerText k) := by
  have lowered : (asciiLowerText k).toList = k.toList.map asciiLower := String.toList_ofList
  simp only [settingName, ← lowered]
  cases found : sectionNames.findSome? fun s =>
      (keyInSection? (asciiLowerText k).toList s.toList).map fun key => s.toList ++ '.' :: key with
  | none =>
      refine .inr ⟨fun s known key same => ?_, String.ofList_toList⟩
      have missed := List.findSome?_eq_none_iff.mp found s known
      rw [eq_joined_iff.mp same] at missed
      cases missed
  | some name =>
      obtain ⟨s, known, here⟩ := List.exists_of_findSome?_eq_some found
      obtain ⟨key, inside, rfl⟩ := Option.map_eq_some_iff.mp here
      refine .inl ⟨s, known, String.ofList key, ?_, ?_⟩
      · rw [eq_joined_iff, inside, String.toList_ofList]
      · rw [← String.toList_inj, (toList_joined _ _).2, String.toList_ofList, String.toList_ofList]
        rfl

section

variable {k s key : String}

/-- **A setting of a section is set by the names that say the section and the key, with
an underscore or a point between.** -/
theorem settingName_eq_iff (known : s ∈ sectionNames) :
    settingName k = s ++ "." ++ key ↔
      asciiLowerText k = s ++ "_" ++ key ∨ asciiLowerText k = s ++ "." ++ key := by
  obtain ⟨t, known', key', lowered, named⟩ | ⟨other, named⟩ := settingName_cases k
  · rw [lowered, named, ← String.toList_inj, ← String.toList_inj, ← String.toList_inj,
      (toList_joined _ _).1, (toList_joined _ _).1, (toList_joined _ _).2, (toList_joined _ _).2]
    constructor
    · intro same
      obtain ⟨rfl, -, same⟩ := joined_inj known' known rfl rfl same
      rw [same]
      exact .inl rfl
    · rintro (same | same)
      · obtain ⟨rfl, -, same⟩ := joined_inj known' known rfl rfl same
        rw [same]
      · obtain ⟨-, impossible, -⟩ := joined_inj known' known rfl rfl same
        cases impossible
  · rw [named]
    exact (or_iff_right (other s known key)).symm

theorem settingName_of_other (other : ∀ s ∈ sectionNames, ∀ key, asciiLowerText k ≠ s ++ "_" ++ key) :
    settingName k = asciiLowerText k := by
  obtain ⟨s, known, key, lowered, -⟩ | ⟨-, named⟩ := settingName_cases k
  · exact absurd lowered (other s known key)
  · exact named

theorem settingName_congr {k' : String} (same : asciiLowerText k = asciiLowerText k') :
    settingName k = settingName k' := by
  obtain ⟨s, known, key, lowered, named⟩ | ⟨other, named⟩ := settingName_cases k
  · rw [named, eq_comm, settingName_eq_iff known, ← same]
    exact .inl lowered
  · rw [named, settingName_of_other (same ▸ other), same]

theorem settingName_lower (k : String) : settingName (asciiLowerText k) = settingName k :=
  settingName_congr (asciiLowerText_asciiLowerText k)

theorem asciiLowerText_joined (known : s ∈ sectionNames) (key : String) :
    asciiLowerText (s ++ "_" ++ key) = s ++ "_" ++ asciiLowerText key ∧
      asciiLowerText (s ++ "." ++ key) = s ++ "." ++ asciiLowerText key := by
  have underscore : asciiLowerText "_" = "_" := by decide +kernel
  have point : asciiLowerText "." = "." := by decide +kernel
  simp only [asciiLowerText_append, asciiLowerText_section s known, underscore, point, and_self]

/-- The key of a name in small letters is in small letters. -/
theorem asciiLowerText_key (known : s ∈ sectionNames) (lowered : asciiLowerText k = s ++ "_" ++ key) :
    asciiLowerText key = key := by
  have same : s ++ "_" ++ asciiLowerText key = s ++ "_" ++ key := by
    rw [← (asciiLowerText_joined known key).1, ← lowered, asciiLowerText_asciiLowerText]
  exact String.append_right_inj _ |>.mp same

theorem asciiLowerText_settingName (k : String) :
    asciiLowerText (settingName k) = settingName k := by
  obtain ⟨s, known, key, lowered, named⟩ | ⟨-, named⟩ := settingName_cases k
  · rw [named, (asciiLowerText_joined known key).2, asciiLowerText_key known lowered]
  · rw [named, asciiLowerText_asciiLowerText]

/-- **The name of a setting is its own.** -/
theorem settingName_settingName (k : String) : settingName (settingName k) = settingName k := by
  obtain ⟨s, known, key, -, named⟩ | ⟨-, named⟩ := settingName_cases k
  · have own := asciiLowerText_settingName k
    rw [named] at own
    rw [named, settingName_eq_iff known]
    exact .inr own
  · rw [named, settingName_lower, named]

/-! ## Names that are spelled alike -/

/-- A section and a key with a separator between, in letters of any case. -/
def Addresses (name sectionName key : String) : Prop :=
  SameIgnoringCase name (sectionName ++ "_" ++ key) ∨
    SameIgnoringCase name (sectionName ++ "." ++ key)

/-- Equal but for the case of letters, and for the separator behind a section. -/
def SpelledAlike (name name' : String) : Prop :=
  SameIgnoringCase name name' ∨
    ∃ s ∈ sectionNames, ∃ key, Addresses name s key ∧ Addresses name' s key

theorem addresses_iff (known : s ∈ sectionNames) :
    Addresses k s key ↔ settingName k = s ++ "." ++ asciiLowerText key := by
  rw [Addresses, ← asciiLowerText_eq_iff, ← asciiLowerText_eq_iff,
    (asciiLowerText_joined known key).1, (asciiLowerText_joined known key).2,
    settingName_eq_iff known]

/-- **Two names set one setting exactly if they are spelled alike.** -/
theorem settingName_inj {k' : String} : settingName k = settingName k' ↔ SpelledAlike k k' := by
  constructor
  · intro same
    -- The point behind a section shows in what both are named; without it both stand
    -- for themselves.
    by_cases sectioned : ∃ s ∈ sectionNames, ∃ key, settingName k = s ++ "." ++ key
    · obtain ⟨s, known, key, named⟩ := sectioned
      have small : settingName k = s ++ "." ++ asciiLowerText key := by
        rw [← asciiLowerText_settingName, named, (asciiLowerText_joined known key).2]
      exact .inr ⟨s, known, key, (addresses_iff known).mpr small,
        (addresses_iff known).mpr (same ▸ small)⟩
    · have itself : ∀ x, settingName x = settingName k → settingName x = asciiLowerText x := by
        intro x alike
        obtain ⟨s, known, key, -, named⟩ | ⟨-, named⟩ := settingName_cases x
        · exact absurd ⟨s, known, key, alike.symm.trans named⟩ sectioned
        · exact named
      rw [SpelledAlike, ← asciiLowerText_eq_iff, ← itself k rfl, ← itself k' same.symm]
      exact .inl same
  · rintro (same | ⟨s, known, key, here, there⟩)
    · exact settingName_congr ((asciiLowerText_eq_iff k k').mpr same)
    · rw [(addresses_iff known).mp here, (addresses_iff known).mp there]

end

/-! ## Parts of a name -/

theorem intercalate_splitAt (c : Char) (s : List Char) : [c].intercalate (splitAt c s) = s := by
  induction s with
  | nil => rfl
  | cons d r ih =>
      rw [splitAt]
      split
      · next same =>
          rw [List.intercalate_cons_of_ne_nil (splitAt_ne_nil c r), ih, same]
          rfl
      · cases parts : splitAt c r with
        | nil => exact absurd parts (splitAt_ne_nil c r)
        | cons part rest =>
            rw [parts] at ih
            have put : [c].intercalate ((d :: part) :: rest) = d :: [c].intercalate (part :: rest) := by
              cases rest <;> simp
            rw [put, ih]

theorem splitAt_append_cons {c : Char} {s : List Char} (free : c ∉ s) (r : List Char) :
    splitAt c (s ++ c :: r) = s :: splitAt c r := by
  induction s with
  | nil => rw [List.nil_append, splitAt, if_pos rfl]
  | cons d s ih =>
      obtain ⟨other, free⟩ := not_or.mp (mt List.mem_cons.mpr free)
      rw [List.cons_append, splitAt, if_neg (Ne.symm other), ih free]

/-- **Of the underscores of a name only the one behind the section becomes a point.** -/
theorem parts_of_key {s : String} (known : s ∈ sectionNames) (key : String) :
    splitAt '.' (settingName (s ++ "_" ++ key)).toList =
      s.toList :: splitAt '.' (asciiLowerText key).toList := by
  have named : settingName (s ++ "_" ++ key) = s ++ "." ++ asciiLowerText key :=
    (settingName_eq_iff known).mpr (.inl (asciiLowerText_joined known key).1)
  have free : '.' ∉ s.toList := fun stands => by cases (section_word s known '.' stands).1
  rw [named, (toList_joined _ _).2, splitAt_append_cons free]

/-! ## Blanks around a name -/

/-- A text without the blanks around it. -/
def trimmedText (s : String) : String := String.ofList (Text.trim s.toList)

theorem asciiLowerText_trimmedText (k : String) :
    asciiLowerText (trimmedText k) = trimmedText (asciiLowerText k) := by
  rw [asciiLowerText, asciiLowerText, trimmedText, trimmedText, String.toList_ofList,
    String.toList_ofList, Text.trim_map_asciiLower]

theorem trimmedText_joined {s : String} (known : s ∈ sectionNames) (key : String) :
    ∃ key', trimmedText (s ++ "_" ++ key) = s ++ "_" ++ key' ∧
      trimmedText (s ++ "." ++ key) = s ++ "." ++ key' := by
  have word : ∀ c ∈ s.toList, Text.isBlank c = false := fun c stands =>
    (section_word s known c stands).2
  refine ⟨String.ofList (Text.trimRight key.toList), ?_, ?_⟩
  · rw [← String.toList_inj, trimmedText, (toList_joined _ _).1, (toList_joined _ _).1,
      String.toList_ofList, String.toList_ofList, Text.trim_append_cons (by decide) word]
  · rw [← String.toList_inj, trimmedText, (toList_joined _ _).2, (toList_joined _ _).2,
      String.toList_ofList, String.toList_ofList, Text.trim_append_cons (by decide) word]

/-- **Blanks around the name of a setting are those around the name it comes from.** -/
theorem settingName_trimmedText (k : String) :
    settingName (trimmedText (settingName k)) = settingName (trimmedText k) := by
  obtain ⟨s, known, key, lowered, named⟩ | ⟨-, named⟩ := settingName_cases k
  · obtain ⟨key', underscore, point⟩ := trimmedText_joined known key
    have small : asciiLowerText (trimmedText k) = s ++ "_" ++ key' := by
      rw [asciiLowerText_trimmedText, lowered, underscore]
    have from_name : settingName (trimmedText k) = s ++ "." ++ key' :=
      (settingName_eq_iff known).mpr (.inl small)
    rw [named, point, ← from_name, settingName_settingName]
  · rw [named, ← asciiLowerText_trimmedText, settingName_lower]

/-- What the name of a variable has behind the common beginning, without blanks around. -/
def ownName (variableName : String) : String :=
  trimmedText (String.ofList
    ((Text.trim variableName.toList).drop variablePrefix.toList.length))

/-- The place of a setting tells its name. -/
theorem settingName_ownName {v : String} {path : List String} (set : settingPath? v = some path) :
    settingName (ownName v) =
      settingName (String.ofList (['.'].intercalate (path.map String.toList))) := by
  unfold settingPath? at set
  extract_lets name start dotted parts at set
  have count : start.length = variablePrefix.toList.length := List.length_map _
  split at set
  · split at set
    · cases set
    · have whole : ['.'].intercalate (path.map String.toList) = trimmed dotted.toList := by
        rw [← Option.some.inj set, List.map_map]
        have back : String.toList ∘ String.ofList = id := funext fun _ => String.toList_ofList
        rw [back, List.map_id, intercalate_splitAt]
      have named := settingName_trimmedText (String.ofList (name.drop start.length))
      rw [whole, ownName, ← count]
      exact named.symm
  · cases set

/-- **Variables for one setting are spelled alike.** -/
theorem spelledAlike_of_path {v w : String} {path : List String}
    (hv : settingPath? v = some path) (hw : settingPath? w = some path) :
    SpelledAlike (ownName v) (ownName w) := by
  rw [← settingName_inj, settingName_ownName hv, settingName_ownName hw]

/-- **A setting is named by its section and key, whatever the case of letters.**  Any other
name stands for itself in small letters.  Naming a setting by its own name changes nothing,
the key is cut at its own points only, and two names name one setting exactly if they are
spelled alike.  So variables set one setting only if their names are spelled alike, behind
the common beginning and without the blanks around, which are dropped. -/
theorem settings_named_by_spelling (k : String) :
    (∀ s ∈ sectionNames, ∀ key, settingName k = s ++ "." ++ key ↔
        asciiLowerText k = s ++ "_" ++ key ∨ asciiLowerText k = s ++ "." ++ key) ∧
      ((∀ s ∈ sectionNames, ∀ key, asciiLowerText k ≠ s ++ "_" ++ key) →
        settingName k = asciiLowerText k) ∧
      settingName (settingName k) = settingName k ∧
      (∀ s ∈ sectionNames, ∀ key, splitAt '.' (settingName (s ++ "_" ++ key)).toList =
        s.toList :: splitAt '.' (asciiLowerText key).toList) ∧
      (∀ k', settingName k = settingName k' ↔ SpelledAlike k k') ∧
      ∀ v w path, settingPath? v = some path → settingPath? w = some path →
        SpelledAlike (ownName v) (ownName w) :=
  ⟨fun _ known _ => settingName_eq_iff known, settingName_of_other, settingName_settingName k,
    fun _ known key => parts_of_key known key, fun _ => settingName_inj,
    fun _ _ _ hv hw => spelledAlike_of_path hv hw⟩

/-- Capitals and a point behind the section make no other name, and a section that no
separator follows is a name like any other. -/
theorem settings_named_by_spelling_in_any_case :
    settingName "Session_Key_Retry_Attempts" = "session" ++ "." ++ "key_retry_attempts" ∧
      settingName "STORAGEUSERS_TABLE" = "storageusers_table" ∧
      splitAt '.' (settingName ("storage" ++ "_" ++ "Users_Table")).toList =
        ["storage".toList, "users_table".toList] ∧
      SpelledAlike (ownName "KEYWARD_STORAGE_USERS_TABLE") (ownName "Keyward_storage.Users_Table ") := by
  obtain ⟨keyed, -, -, parts, -, paths⟩ := settings_named_by_spelling "Session_Key_Retry_Attempts"
  obtain ⟨-, itself, -⟩ := settings_named_by_spelling "STORAGEUSERS_TABLE"
  refine ⟨(keyed "session" (by decide) _).mpr (.inl (by decide +kernel)), ?_, ?_,
    paths _ _ ["storage", "users_table"] (by decide +kernel) (by decide +kernel)⟩
  · have missed : ∀ s ∈ sectionNames,
        keyInSection? (asciiLowerText "STORAGEUSERS_TABLE").toList s.toList = none := by
      decide +kernel
    have small : asciiLowerText "STORAGEUSERS_TABLE" = "storageusers_table" := by decide +kernel
    rw [← small]
    refine itself fun s known key same => ?_
    rw [eq_joined_iff, missed s known] at same
    cases same
  · rw [parts "storage" (by decide)]
    decide +kernel

end AccountStore.Config
