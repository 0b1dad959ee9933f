/-
# AccountStore.Proofs.Config.Layers -- which layer a setting comes from

A layer is read from a document or from variables (`Origin`); either way it lays
tables on one another, the one table of a document or the table of each variable
(`Origin.values`).  A layer mentions a section or a key if one of these tables has
it.  As long as sections are tables, a layer therefore says under a key what its
tables say there (`Origin.content_gives`), the merged layers say what the layers say,
and decoding takes it over.  The last mention decides a setting, a setting without a
mention stays at its default, and no mention gets lost, so one of a section or key
that does not exist is found (`settings_follow_layers`).
-/
import AccountStore.Proofs.Config.Decoding

namespace AccountStore.Config

set_option autoImplicit false

/-! ## Where layers come from -/

/-- What a layer is read from. -/
inductive Origin where
  | document (source : Source) (text : String)
  | environment (e : Environment)

/-- The table that a variable gives, if its name is one of a setting. -/
def variableValue? (p : String × String) : Option Value :=
  (settingPath? p.1).map fun path => nested path (Variable.read p.2)

def Environment.values (e : Environment) : List Value := e.filterMap variableValue?

namespace Origin

def layer : Origin → Layer
  | .document source text => .ofText source text
  | .environment e => .ofEnvironment e

def source : Origin → Source
  | .document source _ => source
  | .environment _ => .environment

/-- The tables that the layer lays on one another. -/
def values : Origin → List Value
  | .document _ text => ((Toml.read? text).map Value.table).toList
  | .environment e => e.values

/-- The layer has a section of this name, and this is said of it. -/
def MentionsSection (o : Origin) (name : String) (v : Value) : Prop :=
  ∃ t ∈ o.values, t.at? name = some v

/-- The layer gives a value to a key of a section. -/
def Mentions (o : Origin) (name key : String) (x : Value) : Prop :=
  ∃ t ∈ o.values, t.inSection? name key = some x

end Origin

/-- The layer of a file, if the file is there. -/
def fileOrigin (files : Files) (path : Option String) : List Origin :=
  match path with
  | none => []
  | some p =>
      match Location.content? files p with
      | none => []
      | some text => [.document (.file p) text]

/-- The files and the variables of a run. -/
def standardOrigins (w : Surroundings) : List Origin :=
  fileOrigin w.files (some Location.systemFile) ++
    fileOrigin w.files (Location.userFile? w.environment) ++
    fileOrigin w.files (Location.nearest? w.files w.directory Location.localName) ++
    [.environment w.environment]

theorem ofFile?_eq (files : Files) (path : Option String) :
    Layer.ofFile? files path = (fileOrigin files path).map Origin.layer := by
  unfold Layer.ofFile? fileOrigin
  cases path with
  | none => rfl
  | some p => cases h : Location.content? files p <;> simp [h, Origin.layer]

/-- The layers of a run are those of its files and variables. -/
theorem standardLayers_eq (w : Surroundings) :
    standardLayers w = (standardOrigins w).map Origin.layer := by
  simp [standardLayers, standardOrigins, ofFile?_eq, Origin.layer]

/-! ## What a layer says -/

theorem splitAt_ne_nil (separator : Char) (s : List Char) : splitAt separator s ≠ [] := by
  induction s with
  | nil => exact List.cons_ne_nil _ _
  | cons c r ih =>
      rw [splitAt]
      split
      · exact List.cons_ne_nil _ _
      · split <;> exact List.cons_ne_nil _ _

theorem settingPath?_ne_nil {name : String} {path : List String}
    (h : settingPath? name = some path) : path ≠ [] := by
  unfold settingPath? at h
  extract_lets name' start dotted parts at h
  split at h
  · split at h
    · exact absurd h nofun
    · rw [← Option.some.inj h]
      exact fun empty => splitAt_ne_nil _ _ (List.map_eq_nil_iff.mp empty)
  · exact absurd h nofun

theorem sectioned_nested {path : List String} (filled : path ≠ []) {v : Value} (h : v.Rising) :
    ∃ t, nested path v = .table t ∧ Sectioned t := by
  obtain ⟨key, rest, rfl⟩ := List.exists_cons_of_ne_nil filled
  refine ⟨[(key, nested rest v)], rfl, List.pairwise_singleton _ _, ?_⟩
  refine List.forall_mem_singleton.mpr ?_
  cases rest with
  | nil => exact h
  | cons key rest => exact Value.rising_single _ _

namespace Origin

/-- What a layer lays on one another are tables that give no key twice. -/
theorem sectioned_of_mem_values {o : Origin} {v : Value} (h : v ∈ o.values) :
    ∃ t, v = .table t ∧ Sectioned t := by
  cases o with
  | document source text =>
      obtain ⟨t, read, rfl⟩ := Option.map_eq_some_iff.mp (Option.mem_toList.mp h)
      exact ⟨t, rfl, Toml.read?_sectioned read⟩
  | environment e =>
      obtain ⟨p, -, given⟩ := List.mem_filterMap.mp h
      obtain ⟨path, found, rfl⟩ := Option.map_eq_some_iff.mp given
      exact sectioned_nested (settingPath?_ne_nil found) (Variable.read_rising p.2)

end Origin

theorem Environment.settings_eq (e : Environment) :
    e.settings = (e.values.map (Setting.ofValue .environment)).foldl Setting.overlay
      (.table .environment []) := by
  unfold settings values
  generalize Setting.table .environment [] = start
  induction e generalizing start with
  | nil => rfl
  | cons p rest ih =>
      rw [List.foldl_cons, ih]
      cases found : settingPath? p.1 with
      | none =>
          have none : variableValue? p = none := by rw [variableValue?, found]; rfl
          rw [List.filterMap_cons_none none]
      | some path =>
          have some : variableValue? p = some (nested path (Variable.read p.2)) := by
            rw [variableValue?, found]; rfl
          rw [List.filterMap_cons_some some, List.map_cons, List.foldl_cons]

namespace Origin

open Setting

/-- What the layer says of a key in a section, if sections are tables. -/
def gives (o : Origin) (name key : String) : Option Setting :=
  (o.values.map fun v => (v.inSection? name key).map (ofValue o.source)).foldl laid none

/-- Wherever the layer has one of the sections, the section is a table. -/
def SectionsAreTables (o : Origin) : Prop :=
  ∀ name ∈ sectionNames, ∀ v, o.MentionsSection name v → ∃ t, v = .table t

/-- At most one of the tables has a key of the configuration. -/
def GivesOnce (o : Origin) : Prop :=
  ∀ ℓ : Leaf, o.values.Pairwise fun v w =>
    v.inSection? ℓ.sectionName ℓ.keyName = none ∨ w.inSection? ℓ.sectionName ℓ.keyName = none

theorem givesOnce_of_length_le {o : Origin} (h : o.values.length ≤ 1) : o.GivesOnce := by
  intro ℓ
  cases values : o.values with
  | nil => exact .nil
  | cons t rest =>
      have alone : rest = [] := List.length_eq_zero_iff.mp (by simpa [values] using h)
      exact alone ▸ List.pairwise_singleton _ _

/-- A document is one table, and has no key twice. -/
theorem givesOnce_document (source : Source) (text : String) :
    (Origin.document source text).GivesOnce :=
  givesOnce_of_length_le Option.length_toList_le

instance (v : Value) : Decidable (∃ t, v = .table t) :=
  match v with
  | .table t => .isTrue ⟨t, rfl⟩
  | .text _ | .truth _ | .signed _ | .unsigned _ | .real _ | .list _ => .isFalse nofun

instance (o : Origin) : Decidable o.SectionsAreTables :=
  decidable_of_iff
    (∀ name ∈ sectionNames, ∀ u ∈ o.values, ∀ v ∈ u.at? name, ∃ t, v = .table t)
    ⟨fun h name named v ⟨u, hu, hv⟩ => h name named u hu v hv,
      fun h name named u hu v hv => h name named v ⟨u, hu, hv⟩⟩

theorem hasSections_of_mem_values {o : Origin} (tables : o.SectionsAreTables) {v : Value}
    (hv : v ∈ o.values) : (ofValue o.source v).HasSections sectionNames := by
  obtain ⟨t, rfl, rising, sections⟩ := sectioned_of_mem_values hv
  refine ⟨⟨_, _, ofValue_table _ _, rising_ofEntries rising⟩, fun name named u hu => ?_⟩
  rw [at?_ofValue] at hu
  obtain ⟨w, hw, rfl⟩ := Option.map_eq_some_iff.mp hu
  obtain ⟨t', rfl⟩ := tables name named w ⟨_, hv, hw⟩
  exact ⟨_, _, ofValue_table _ _, rising_ofEntries (sections _ (Entries.mem_of_get? hw))⟩

theorem hasSections_nil (source : Source) : (Setting.table source []).HasSections sectionNames :=
  ⟨⟨source, [], rfl, .nil⟩, fun _ _ _ h => by cases h⟩

/-- **A layer says what its tables say, laid on one another.** -/
theorem content_gives {o : Origin} (tables : o.SectionsAreTables) {c : Setting}
    (hc : o.layer.content = some c) :
    c.HasSections sectionNames ∧
      (∀ name v, o.MentionsSection name v → c.at? name ≠ none) ∧
      ∀ name ∈ sectionNames, ∀ key, c.inSection? name key = o.gives name key := by
  cases o with
  | document source text =>
      obtain ⟨t, read, rfl⟩ := Option.map_eq_some_iff.mp hc
      have whole : (Origin.document source text).values = [.table t] := by simp [values, read]
      refine ⟨hasSections_of_mem_values (o := .document source text) tables (by simp [whole]),
        ?_, fun name _ key => ?_⟩
      · rintro name v ⟨u, hu, hv⟩
        obtain rfl : u = .table t := by simpa [whole] using hu
        simp [at?_ofValue, hv]
      · rw [inSection?_ofValue, gives, whole]
        cases h : (Value.table t).inSection? name key <;> simp [h, laid, Origin.source]
  | environment e =>
      obtain rfl : e.settings = c := by simpa [layer, Layer.ofEnvironment] using hc
      rw [Environment.settings_eq]
      have all : ∀ c ∈ e.values.map (ofValue .environment), c.HasSections sectionNames :=
        List.forall_mem_map.mpr fun v hv => hasSections_of_mem_values tables hv
      obtain ⟨sections, keys, entries⟩ := foldl_overlay (hasSections_nil .environment) all
      refine ⟨sections, ?_, fun name named key => ?_⟩
      · rintro name v ⟨u, hu, hv⟩ absent
        rw [keys, foldl_laid_eq_none_iff, List.map_map] at absent
        have silent := absent.2 _ (List.mem_map_of_mem hu)
        simp [at?_ofValue, hv] at silent
      · rw [entries name named, gives, List.map_map]
        exact congrArg (List.foldl laid none)
          (List.map_congr_left fun v _ => inSection?_ofValue .environment v name key)

theorem gives_eq_none_iff {o : Origin} {name key : String} :
    o.gives name key = none ↔ ∀ x, ¬ o.Mentions name key x := by
  rw [gives, foldl_laid_eq_none_iff]
  constructor
  · rintro ⟨-, silent⟩ x ⟨t, ht, hx⟩
    have := silent _ (List.mem_map_of_mem ht)
    simp [hx] at this
  · refine fun silent => ⟨rfl, List.forall_mem_map.mpr fun t ht => ?_⟩
    rw [Option.map_eq_none_iff, Option.eq_none_iff_forall_ne_some]
    exact fun x hx => silent x ⟨t, ht, hx⟩

/-- A leaf that the layer says is the value of the one table that has the key. -/
theorem eq_of_gives_leaf {o : Origin} (once : o.GivesOnce) {ℓ : Leaf} {x y : Value} {source : Source}
    (given : o.Mentions ℓ.sectionName ℓ.keyName x)
    (h : o.gives ℓ.sectionName ℓ.keyName = some (.leaf source y)) : x = y := by
  obtain ⟨t, ht, hx⟩ := given
  obtain ⟨before, after, split⟩ := List.append_of_mem ht
  have alone := once ℓ
  rw [split] at alone
  have silent : ∀ u ∈ after, u.inSection? ℓ.sectionName ℓ.keyName = none := fun u hu =>
    ((List.pairwise_cons.mp (List.pairwise_append.mp alone).2.1).1 u hu).resolve_left (by simp [hx])
  rw [gives, split, List.map_append, List.map_cons, hx] at h
  refine ofValue_eq_leaf (foldl_laid_eq_leaf (List.forall_mem_map.mpr fun u hu => ?_) h)
  rw [silent u hu]
  rfl

end Origin

/-! ## What the layers say together -/

open Setting

theorem Leaf.sectionName_mem (ℓ : Leaf) : ℓ.sectionName ∈ sectionNames := by
  cases ℓ <;> decide

/-- Loading comes to an end only if every layer can be read and they can be decoded
together. -/
theorem load_eq_ok {d s : Settings} {layers : List Layer} (h : load d layers = .ok s) :
    (∀ l ∈ layers, ∃ c, l.content = some c) ∧ decode d (merged layers) = .ok s := by
  unfold load at h
  split at h
  · next readable =>
      refine ⟨fun l hl => ?_, ?_⟩
      · have present := List.filter_eq_nil_iff.mp readable l hl
        exact Option.ne_none_iff_exists'.mp (by simpa using present)
      · split at h
        · next decoded => rw [decoded, Except.ok.inj h]
        · cases h
  · cases h

/-- **The contents of readable layers say what the layers say, one after another.** -/
theorem contents_say {stack : List Origin} (tables : ∀ o ∈ stack, o.SectionsAreTables)
    (readable : ∀ o ∈ stack, ∃ c, o.layer.content = some c) :
    ∃ contents : List Setting, (stack.map Origin.layer).filterMap Layer.content = contents ∧
      (∀ c ∈ contents, c.HasSections sectionNames) ∧
      (∀ o ∈ stack, ∀ name v, o.MentionsSection name v → ∃ c ∈ contents, c.at? name ≠ none) ∧
      ∀ name ∈ sectionNames, ∀ key,
        contents.map (·.inSection? name key) = stack.map (·.gives name key) := by
  induction stack with
  | nil => exact ⟨[], rfl, nofun, nofun, fun _ _ _ => rfl⟩
  | cons o rest ih =>
      obtain ⟨tablesFirst, tablesLater⟩ := List.forall_mem_cons.mp tables
      obtain ⟨⟨c, hc⟩, readableLater⟩ := List.forall_mem_cons.mp readable
      obtain ⟨contents, eq, sections, mentioned, said⟩ := ih tablesLater readableLater
      obtain ⟨sectionsFirst, mentionedFirst, saidFirst⟩ := Origin.content_gives tablesFirst hc
      refine ⟨c :: contents, ?_, List.forall_mem_cons.mpr ⟨sectionsFirst, sections⟩,
        List.forall_mem_cons.mpr ⟨fun name v h => ?_, fun p hp name v h => ?_⟩,
        fun name named key => ?_⟩
      · rw [List.map_cons, List.filterMap_cons_some hc, eq]
      · exact ⟨c, List.mem_cons_self, mentionedFirst name v h⟩
      · obtain ⟨c', member, present⟩ := mentioned p hp name v h
        exact ⟨c', List.mem_cons_of_mem _ member, present⟩
      · rw [List.map_cons, List.map_cons, saidFirst name named, said name named]

/-- **The merged layers say what the layers say, laid on one another**, and have every
section that a layer mentions. -/
theorem merged_gives {stack : List Origin} (tables : ∀ o ∈ stack, o.SectionsAreTables)
    (readable : ∀ o ∈ stack, ∃ c, o.layer.content = some c) :
    ∃ source t, merged (stack.map Origin.layer) = t ∧
      (Setting.table source t).HasSections sectionNames ∧
      (∀ o ∈ stack, ∀ name v, o.MentionsSection name v →
        ∃ w, (Setting.table source t).at? name = some w) ∧
      ∀ name ∈ sectionNames, ∀ key, (Setting.table source t).inSection? name key =
        (stack.map (·.gives name key)).foldl laid none := by
  obtain ⟨contents, eq, sections, mentioned, said⟩ := contents_say tables readable
  obtain ⟨shape, keys, entries⟩ := foldl_overlay (Origin.hasSections_nil .given) sections
  obtain ⟨source, t, whole, -⟩ := shape.table
  rw [whole] at shape keys entries
  refine ⟨source, t, by simp only [merged, eq, whole], shape, fun o ho name v hv => ?_,
    fun name named key => ?_⟩
  · obtain ⟨c, hc, present⟩ := mentioned o ho name v hv
    rw [← Option.ne_none_iff_exists', keys, Ne, foldl_laid_eq_none_iff]
    exact fun absent => present (absent.2 _ (List.mem_map_of_mem hc))
  · rw [entries name named, said name named]
    rfl

/-- **Loading settles every leaf as the layers say, laid on one another, and no
layer has a section or a key without a leaf.** -/
theorem load_settles {d s : Settings} {stack : List Origin}
    (tables : ∀ o ∈ stack, o.SectionsAreTables) (h : load d (stack.map Origin.layer) = .ok s) :
    (∀ ℓ : Leaf, Settles ((stack.map (·.gives ℓ.sectionName ℓ.keyName)).foldl laid none)
        (ℓ.value d) (ℓ.value s)) ∧
      (∀ o ∈ stack, ∀ name v, o.MentionsSection name v → ∃ ℓ : Leaf, ℓ.sectionName = name) ∧
      ∀ o ∈ stack, ∀ name key x, o.Mentions name key x →
        ∃ ℓ : Leaf, ℓ.sectionName = name ∧ ℓ.keyName = key := by
  obtain ⟨readable, decoded⟩ := load_eq_ok h
  obtain ⟨source, t, same, shape, mentioned, entries⟩ :=
    merged_gives tables fun o ho => readable _ (List.mem_map_of_mem ho)
  rw [same] at decoded
  obtain ⟨settled, sectionLeaf, entryLeaf⟩ := decode_settles shape decoded
  have known : ∀ o ∈ stack, ∀ name v, o.MentionsSection name v →
      ∃ ℓ : Leaf, ℓ.sectionName = name := fun o ho name v hv => by
    obtain ⟨w, hw⟩ := mentioned o ho name v hv
    exact sectionLeaf name w hw
  refine ⟨fun ℓ => entries _ ℓ.sectionName_mem _ ▸ settled ℓ, known, fun o ho name key x hx => ?_⟩
  -- a key is mentioned in a section, so the section is one of the configuration's
  obtain ⟨u, hu, hux⟩ := hx
  obtain ⟨v, hv, -⟩ := Option.bind_eq_some_iff.mp hux
  obtain ⟨ℓ, rfl⟩ := known o ho name v ⟨u, hu, hv⟩
  have stands : (stack.map (·.gives ℓ.sectionName key)).foldl laid none ≠ none := by
    rw [Ne, foldl_laid_eq_none_iff]
    exact fun absent =>
      Origin.gives_eq_none_iff.mp (absent.2 _ (List.mem_map_of_mem ho)) x ⟨u, hu, hux⟩
  obtain ⟨y, hy⟩ := Option.ne_none_iff_exists'.mp stands
  exact entryLeaf _ _ y ((entries _ ℓ.sectionName_mem key).trans hy)

/-! ## The ways to load a configuration -/

/-- What a configuration is asked of. -/
inductive Request where
  /-- The files and the variables of a run. -/
  | run (w : Surroundings)
  /-- One file, and the variables. -/
  | file (w : Surroundings) (path : String)
  /-- One text alone. -/
  | text (e : Environment) (content : String)

namespace Request

def defaults : Request → Settings
  | .run w => defaultsIn w.environment
  | .file w _ => defaultsIn w.environment
  | .text e _ => defaultsIn e

/-- The layers over the defaults, in rising order of weight. -/
def stack : Request → List Origin
  | .run w => standardOrigins w
  | .file w path => fileOrigin w.files (some path) ++ [.environment w.environment]
  | .text _ content => [.document .given content]

/-- What loading gives; no rule is checked. -/
def outcome : Request → Except (List Fault) Settings
  | .run w => loadStandard w
  | .file w path => fromFile w path
  | .text e content => loadText e content

/-- Whatever a configuration is asked of, it is loaded from the stack. -/
theorem outcome_eq (r : Request) : r.outcome = load r.defaults (r.stack.map Origin.layer) := by
  cases r with
  | run w => exact congrArg (load _) (standardLayers_eq w)
  | file w path =>
      rw [outcome, fromFile, ofFile?_eq, stack, List.map_append]
      rfl
  | text e content => rfl

end Request

/-- **Settings that obey the rules are taken as they were read.** -/
theorem validated_eq_ok_iff {documents : List Document} {directory : String}
    {loaded : Except (List Fault) Settings} {s : Settings} :
    validated documents directory loaded = .ok s ↔ loaded = .ok s ∧ violations s = [] := by
  cases loaded with
  | error es => simp [validated]
  | ok t =>
      rw [validated, checked]
      cases broken : violations t with
      | nil =>
          simp only [Except.ok.injEq]
          constructor
          · rintro rfl
            exact ⟨rfl, broken⟩
          · exact And.left
      | cons v vs =>
          refine iff_of_false nofun ?_
          rintro ⟨⟨⟩, none⟩
          rw [broken] at none
          cases none

/-- The last of the layers that give the key a value gives it this one. -/
def LastGives (stack : List Origin) (name key : String) (x : Value) : Prop :=
  ∃ before o after, stack = before ++ o :: after ∧ o.Mentions name key x ∧
    ∀ p ∈ after, ∀ y, ¬ p.Mentions name key y

/-- The settings are the defaults with what the layers say over them, and the layers
say nothing else. -/
structure Follows (stack : List Origin) (d s : Settings) : Prop where
  given : ∀ (ℓ : Leaf) (x : Value), LastGives stack ℓ.sectionName ℓ.keyName x → ℓ.value s = x.plain
  kept : ∀ ℓ : Leaf, (∀ o ∈ stack, ∀ x, ¬ o.Mentions ℓ.sectionName ℓ.keyName x) →
    ℓ.value s = ℓ.value d
  sectionLeaf : ∀ o ∈ stack, ∀ name v, o.MentionsSection name v → ∃ ℓ : Leaf, ℓ.sectionName = name
  entryLeaf : ∀ o ∈ stack, ∀ name key x, o.Mentions name key x →
    ∃ ℓ : Leaf, ℓ.sectionName = name ∧ ℓ.keyName = key

/-- What the last layer gives a leaf is what loading puts there. -/
theorem eq_of_lastGives {stack : List Origin} (once : ∀ o ∈ stack, o.GivesOnce) {ℓ : Leaf}
    {x before after : Value} (last : LastGives stack ℓ.sectionName ℓ.keyName x)
    (h : Settles ((stack.map (·.gives ℓ.sectionName ℓ.keyName)).foldl laid none) before after) :
    after = x.plain := by
  obtain ⟨earlier, o, later, rfl, given, silent⟩ := last
  obtain ⟨v, said⟩ : ∃ v, o.gives ℓ.sectionName ℓ.keyName = some v :=
    Option.ne_none_iff_exists'.mp fun none => Origin.gives_eq_none_iff.mp none x given
  rw [List.map_append, List.map_cons, said] at h
  cases found : (earlier.map (·.gives ℓ.sectionName ℓ.keyName) ++
      some v :: later.map (·.gives ℓ.sectionName ℓ.keyName)).foldl laid none with
  | none =>
      have := (foldl_laid_eq_none_iff.mp found).2 (some v) (by simp)
      cases this
  | some w =>
      rw [found] at h
      obtain ⟨source, y, rfl, rfl⟩ := h
      have decides : v = .leaf source y :=
        foldl_laid_eq_leaf (List.forall_mem_map.mpr fun p hp =>
          Origin.gives_eq_none_iff.mpr (silent p hp)) found
      rw [decides] at said
      rw [Origin.eq_of_gives_leaf (once o (by simp)) given said]

/-- A leaf of which no layer says anything stays. -/
theorem eq_of_silent {stack : List Origin} {ℓ : Leaf} {before after : Value}
    (silent : ∀ o ∈ stack, ∀ x, ¬ o.Mentions ℓ.sectionName ℓ.keyName x)
    (h : Settles ((stack.map (·.gives ℓ.sectionName ℓ.keyName)).foldl laid none) before after) :
    after = before := by
  rw [foldl_laid_of_silent (List.forall_mem_map.mpr fun o ho =>
    Origin.gives_eq_none_iff.mpr (silent o ho))] at h
  exact h

theorem load_follows {d s : Settings} {stack : List Origin}
    (tables : ∀ o ∈ stack, o.SectionsAreTables)
    (once : ∀ e, .environment e ∈ stack → (Origin.environment e).GivesOnce)
    (h : load d (stack.map Origin.layer) = .ok s) : Follows stack d s := by
  have each : ∀ o ∈ stack, o.GivesOnce
    | .document source text, _ => Origin.givesOnce_document source text
    | .environment e, member => once e member
  obtain ⟨settled, sectionLeaf, entryLeaf⟩ := load_settles tables h
  exact ⟨fun ℓ x last => eq_of_lastGives each last (settled ℓ),
    fun ℓ silent => eq_of_silent silent (settled ℓ), sectionLeaf, entryLeaf⟩

/-- **Every setting comes from the last layer that mentions it.**  A setting without
a mention stays at its default, and a section or a key that does not exist makes loading
fail wherever a layer mentions it.  The rules come after that: a run or a text is taken
with the settings that were loaded, or not at all. -/
theorem settings_follow_layers (r : Request) (tables : ∀ o ∈ r.stack, o.SectionsAreTables)
    (once : ∀ e, .environment e ∈ r.stack → (Origin.environment e).GivesOnce) :
    (∀ s, r.outcome = .ok s → Follows r.stack r.defaults s) ∧
      (∀ o ∈ r.stack,
        (∀ name v, o.MentionsSection name v → (∀ ℓ : Leaf, ℓ.sectionName ≠ name) →
          ∃ faults, r.outcome = .error faults) ∧
        ∀ name key x, o.Mentions name key x →
          (∀ ℓ : Leaf, ℓ.sectionName = name → ℓ.keyName ≠ key) →
            ∃ faults, r.outcome = .error faults) ∧
      (∀ w, r = .run w → ∀ s, standard w = .ok s ↔ r.outcome = .ok s ∧ violations s = []) ∧
      ∀ e content, r = .text e content →
        ∀ s, fromText e content = .ok s ↔ r.outcome = .ok s ∧ violations s = [] := by
  have follows : ∀ s, r.outcome = .ok s → Follows r.stack r.defaults s := fun s h =>
    load_follows tables once (r.outcome_eq ▸ h)
  have fails : (∀ s, r.outcome ≠ .ok s) → ∃ faults, r.outcome = .error faults := by
    intro none
    cases found : r.outcome with
    | error faults => exact ⟨faults, rfl⟩
    | ok s => exact absurd found (none s)
  refine ⟨follows, fun o ho => ⟨fun name v mentioned unknown => fails fun s h => ?_,
    fun name key x mentioned unknown => fails fun s h => ?_⟩, ?_, ?_⟩
  · obtain ⟨ℓ, hℓ⟩ := (follows s h).sectionLeaf o ho name v mentioned
    exact unknown ℓ hℓ
  · obtain ⟨ℓ, hname, hkey⟩ := (follows s h).entryLeaf o ho name key x mentioned
    exact unknown ℓ hname hkey
  · rintro w rfl s
    exact validated_eq_ok_iff
  · rintro e content rfl s
    exact validated_eq_ok_iff

/-- A file that sets one key of a section over another file that sets two, under a
variable of another section.  The name of the table breaks a rule. -/
def partialSection : Request :=
  .run {
    environment := [("KEYWARD_SESSION_KEY_RETRY_ATTEMPTS", "7")]
    directory := "/srv"
    files := [
      ("/etc/keyward/keyward.toml", "[storage]\nwal_mode = false\nusers_table = \"people\"\n"),
      ("/srv/keyward.toml", "[storage]\nusers_table = \"auth-user\"\n")] }

theorem settings_follow_layers_past_a_partial_section :
    (∀ o ∈ partialSection.stack, o.SectionsAreTables) ∧
      (∀ e, .environment e ∈ partialSection.stack → (Origin.environment e).GivesOnce) ∧
      ∃ s, partialSection.outcome = .ok s ∧ s.storage.walMode = false ∧
        s.storage.usersTable = "auth-user" ∧ s.session.keyRetryAttempts = 7 ∧
        violations s ≠ [] ∧ Follows partialSection.stack partialSection.defaults s := by
  have tables : ∀ o ∈ partialSection.stack, o.SectionsAreTables := by decide +kernel
  have single : ∀ o ∈ partialSection.stack, o.values.length ≤ 1 := by decide +kernel
  have once : ∀ e, .environment e ∈ partialSection.stack → (Origin.environment e).GivesOnce :=
    fun e member => Origin.givesOnce_of_length_le (single _ member)
  have loaded : (partialSection.outcome.toOption.map fun s =>
      (s.storage.walMode, s.storage.usersTable, s.session.keyRetryAttempts,
        (violations s).isEmpty)) = some (false, "auth-user", 7, false) := by decide +kernel
  cases found : partialSection.outcome with
  | error faults =>
      rw [found] at loaded
      cases loaded
  | ok s =>
      rw [found] at loaded
      obtain ⟨wal, users, attempts, broken⟩ : s.storage.walMode = false ∧
          s.storage.usersTable = "auth-user" ∧ s.session.keyRetryAttempts = 7 ∧
            violations s ≠ [] := by
        simpa [Except.toOption] using loaded
      exact ⟨tables, once, s, rfl, wal, users, attempts, broken,
        (settings_follow_layers partialSection tables once).1 s found⟩

end AccountStore.Config
