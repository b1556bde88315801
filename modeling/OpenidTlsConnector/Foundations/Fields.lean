import Mathlib.Data.List.Perm.Basic

/-!
# Records read from named entries

A self-describing format presents a record as a list of named values.  A
derived decoder takes each field from the one entry with its name, wherever
it stands, skips entries it does not know, and refuses a name given twice.  A
missing field is an error unless the field is optional.
-/

namespace Foundations

universe u

/-! ## Readings that agree up to a relation -/

section Readings

variable {First First' Second Second' : Type u} {AlikeFirst : First → First' → Prop}
  {AlikeSecond : Second → Second' → Prop}

theorem optionRel_of_eq {Alike : First → First → Prop} (alike : ∀ value, Alike value value)
    {reading reading' : Option First} (same : reading' = reading) :
    Option.Rel Alike reading reading' := by
  subst same
  cases reading' with
  | none => exact .none
  | some value => exact .some (alike value)

theorem optionRel_mono {Alike Alike' : First → First' → Prop}
    (weaker : ∀ value value', Alike value value' → Alike' value value') {reading : Option First}
    {reading' : Option First'} (alike : Option.Rel Alike reading reading') :
    Option.Rel Alike' reading reading' := by
  cases alike with
  | none => exact .none
  | some alike => exact .some (weaker _ _ alike)

theorem optionRel_symm {Alike : First → First → Prop}
    (symm : ∀ value value', Alike value value' → Alike value' value)
    {reading reading' : Option First} (alike : Option.Rel Alike reading reading') :
    Option.Rel Alike reading' reading := by
  cases alike with
  | none => exact .none
  | some alike => exact .some (symm _ _ alike)

/-- One reading after the other. -/
theorem optionRel_bind {first : Option First} {first' : Option First'}
    (alike : Option.Rel AlikeFirst first first') {second : First → Option Second}
    {second' : First' → Option Second'}
    (alikeSecond : ∀ value value', AlikeFirst value value' →
      Option.Rel AlikeSecond (second value) (second' value')) :
    Option.Rel AlikeSecond (first >>= second) (first' >>= second') := by
  cases alike with
  | none => exact .none
  | some alike => exact alikeSecond _ _ alike

/-- What is read first is the same. -/
theorem optionRel_bind_right (first : Option First) {second : First → Option Second}
    {second' : First → Option Second'}
    (alikeSecond : ∀ value, Option.Rel AlikeSecond (second value) (second' value)) :
    Option.Rel AlikeSecond (first >>= second) (first >>= second') := by
  cases first with
  | none => exact .none
  | some value => exact alikeSecond value

end Readings

/-! ## Reading lists -/

section Lists

variable {Written Value : Type u} {read : Written → Option Value}

/-- Reading back, element by element, what was written element by element. -/
theorem mapM_map_of_inverse {write : Value → Written}
    (inverse : ∀ value, read (write value) = some value) (values : List Value) :
    (values.map write).mapM read = some values := by
  induction values with
  | nil => rfl
  | cons value rest inductionHypothesis => simp [inverse, inductionHypothesis]

theorem mapM_eq_some_iff {items : List Written} {values : List Value} :
    items.mapM read = some values ↔
      List.Forall₂ (fun item value => read item = some value) items values := by
  induction items generalizing values with
  | nil =>
      rw [List.mapM_nil, List.forall₂_nil_left_iff]
      exact ⟨fun same => (Option.some.inj same).symm, fun same => congrArg some same.symm⟩
  | cons item rest inductionHypothesis =>
      rw [List.forall₂_cons_left_iff]
      cases first : read item with
      | none => simp [first]
      | some value =>
          simp only [List.mapM_cons, first, Option.bind_eq_bind, Option.bind_some,
            Option.bind_eq_some_iff, inductionHypothesis, Option.pure_def, Option.some.injEq]
          constructor
          · rintro ⟨values, others, rfl⟩
            exact ⟨value, values, rfl, others, rfl⟩
          · rintro ⟨value, values, rfl, others, rfl⟩
            exact ⟨values, others, rfl⟩

/-- Items in another order are read to the values in another order. -/
theorem mapM_of_perm {items items' : List Written} (perm : items.Perm items')
    {values : List Value} (readAll : items.mapM read = some values) :
    ∃ values', items'.mapM read = some values' ∧ values.Perm values' := by
  obtain ⟨values', found, reordered⟩ :=
    List.perm_comp_forall₂ perm.symm (mapM_eq_some_iff.mp readAll)
  exact ⟨values', mapM_eq_some_iff.mpr found, reordered.symm⟩

/-- Readings of one list in two orders agree up to the order. -/
theorem mapM_rel_of_perm {items items' : List Written} (perm : items.Perm items') :
    Option.Rel List.Perm (items.mapM read) (items'.mapM read) := by
  cases readAll : items.mapM read with
  | some values =>
      obtain ⟨values', readAll', reordered⟩ := mapM_of_perm perm readAll
      rw [readAll']
      exact .some reordered
  | none =>
      cases readAll' : items'.mapM read with
      | none => exact .none
      | some values' =>
          obtain ⟨values, found, -⟩ := mapM_of_perm perm.symm readAll'
          rw [readAll] at found
          cases found

/-- Lists whose items are read alike, one by one, are read alike. -/
theorem mapM_rel_of_forall₂ {Alike : Value → Value → Prop} {items items' : List Written}
    (alike : List.Forall₂ (fun item item' => Option.Rel Alike (read item) (read item'))
      items items') :
    Option.Rel (List.Forall₂ Alike) (items.mapM read) (items'.mapM read) := by
  induction alike with
  | nil => exact .some .nil
  | @cons item item' rest rest' same _ inductionHypothesis =>
      rw [List.mapM_cons, List.mapM_cons]
      apply optionRel_bind same
      intro value value' first
      apply optionRel_bind inductionHypothesis
      intro values values' others
      exact .some (.cons first others)

end Lists

/-! ## Records -/

/-- A record as a format presents it. -/
abbrev Fields (Value : Type u) := List (String × Value)

namespace Fields

variable {Value Result : Type u}

/-- The entry called `name`: `none` when it is repeated, `some none` when it
is missing. -/
def entry (fields : Fields Value) (name : String) : Option (Option Value) :=
  match fields.filter fun field => field.1 == name with
  | [] => some none
  | [field] => some (some field.2)
  | _ :: _ :: _ => none

/-- A field that has to be present. -/
def required (fields : Fields Value) (name : String) (read : Value → Option Result) :
    Option Result := do
  let present ← fields.entry name
  let value ← present
  read value

/-- A field that may be left out, which reads as `none`. -/
def optional (fields : Fields Value) (name : String) (read : Value → Option (Option Result)) :
    Option (Option Result) := do
  match ← fields.entry name with
  | some value => read value
  | none => some none

/-- A field that may be left out, which then has a default. -/
def defaulted (fields : Fields Value) (name : String) (default : Result)
    (read : Value → Option Result) : Option Result := do
  match ← fields.entry name with
  | some value => read value
  | none => some default

/-! Whether a record is read depends only on the entry with the name. -/

variable {fields : Fields Value} {name other : String} {value : Value}
  {read : Value → Option Result} {readOptional : Value → Option (Option Result)}

theorem filter_of_missing (missing : ∀ field ∈ fields, field.1 ≠ name) :
    fields.filter (fun field => field.1 == name) = [] := by
  apply List.filter_eq_nil_iff.mpr
  intro field membership
  simpa using missing field membership

theorem entry_of_missing (missing : ∀ field ∈ fields, field.1 ≠ name) :
    fields.entry name = some none := by
  rw [entry, filter_of_missing missing]

theorem entry_cons_self (missing : ∀ field ∈ fields, field.1 ≠ name) :
    entry ((name, value) :: fields) name = some (some value) := by
  simp [entry, filter_of_missing missing]

theorem entry_cons_of_ne (different : other ≠ name) :
    entry ((other, value) :: fields) name = fields.entry name := by
  rw [entry, List.filter_cons_of_neg (by simpa using different), entry]

/-- A required field that no entry carries cannot be read. -/
theorem required_of_missing (missing : ∀ field ∈ fields, field.1 ≠ name) :
    fields.required name read = none := by
  rw [required, entry_of_missing missing]
  rfl

@[simp]
theorem required_cons_self (missing : ∀ field ∈ fields, field.1 ≠ name) :
    required ((name, value) :: fields) name read = read value := by
  rw [required, entry_cons_self missing]
  rfl

@[simp]
theorem required_cons_of_ne (different : other ≠ name) :
    required ((other, value) :: fields) name read = fields.required name read := by
  rw [required, entry_cons_of_ne different, required]

@[simp]
theorem optional_nil : optional [] name readOptional = some none := rfl

@[simp]
theorem optional_cons_self (missing : ∀ field ∈ fields, field.1 ≠ name) :
    optional ((name, value) :: fields) name readOptional = readOptional value := by
  rw [optional, entry_cons_self missing]
  rfl

@[simp]
theorem optional_cons_of_ne (different : other ≠ name) :
    optional ((other, value) :: fields) name readOptional = fields.optional name readOptional := by
  rw [optional, entry_cons_of_ne different, optional]

@[simp]
theorem defaulted_cons_self {default : Result} (missing : ∀ field ∈ fields, field.1 ≠ name) :
    defaulted ((name, value) :: fields) name default read = read value := by
  rw [defaulted, entry_cons_self missing]
  rfl

@[simp]
theorem defaulted_cons_of_ne {default : Result} (different : other ≠ name) :
    defaulted ((other, value) :: fields) name default read =
      fields.defaulted name default read := by
  rw [defaulted, entry_cons_of_ne different, defaulted]

/-! ## What a decoder accepts -/

theorem entry_eq_some_iff {found : Option Value} :
    fields.entry name = some found ↔
      fields.filter (fun field => field.1 == name) = found.toList.map (name, ·) := by
  unfold entry
  split
  · rename_i missing
    cases found <;> simp [missing]
  · rename_i field single
    have named : field.1 = name := by
      have membership : field ∈ fields.filter (fun field => field.1 == name) := by simp [single]
      simpa using (List.mem_filter.mp membership).2
    cases found with
    | none => simp [single]
    | some value => simp [single, Prod.ext_iff, named]
  · rename_i repeated
    cases found <;> simp [repeated]

theorem required_some_iff {value : Value} :
    fields.required name some = some value ↔ fields.entry name = some (some value) := by
  unfold required
  cases fields.entry name with
  | none => simp
  | some found => simp

theorem optional_some_iff {found : Option Value} :
    fields.optional name (fun value => some (some value)) = some found ↔
      fields.entry name = some found := by
  unfold optional
  cases fields.entry name with
  | none => simp
  | some present => cases present <;> simp

/-- The entries of a record, those that are absent left out. -/
def present (entries : List (String × Option Value)) : Fields Value :=
  entries.flatMap fun named => named.2.toList.map (named.1, ·)

theorem filter_present (entries : List (String × Option Value))
    (distinct : (entries.map Prod.fst).Nodup) {named : String × Option Value}
    (membership : named ∈ entries) :
    (present entries).filter (fun field => field.1 == named.1) =
      named.2.toList.map (named.1, ·) := by
  induction entries with
  | nil => cases membership
  | cons first rest inductionHypothesis =>
      obtain ⟨fresh, distinct⟩ := List.nodup_cons.mp distinct
      have own : ∀ field ∈ first.2.toList.map (first.1, ·), field.1 = first.1 := by
        intro field inFirst
        obtain ⟨value, -, rfl⟩ := List.mem_map.mp inFirst
        rfl
      rw [present, List.flatMap_cons, List.filter_append]
      rcases List.mem_cons.mp membership with rfl | later
      · rw [List.filter_eq_self.mpr fun field inFirst => by simp [own field inFirst]]
        have others : ∀ field ∈ present rest, ¬ (field.1 == named.1) = true := by
          intro field inRest
          obtain ⟨other, otherIn, inOther⟩ := List.mem_flatMap.mp inRest
          obtain ⟨value, -, rfl⟩ := List.mem_map.mp inOther
          rw [beq_iff_eq]
          exact fun same => fresh (same ▸ List.mem_map_of_mem otherIn)
        exact (congrArg _ (List.filter_eq_nil_iff.mpr others)).trans (List.append_nil _)
      · have different : first.1 ≠ named.1 := fun same => fresh (same ▸ List.mem_map_of_mem later)
        rw [List.filter_eq_nil_iff.mpr fun field inFirst => by
          simpa [own field inFirst] using different, List.nil_append]
        exact inductionHypothesis distinct later

theorem entry_present {entries : List (String × Option Value)}
    (distinct : (entries.map Prod.fst).Nodup) {named : String × Option Value}
    (membership : named ∈ entries) : (present entries).entry named.1 = some named.2 :=
  entry_eq_some_iff.mpr (filter_present entries distinct membership)

/-- Reading finds every entry of a record exactly when the fields, unknown names
aside, are the present ones in some order. -/
theorem forall_entry_iff_perm [DecidableEq Value] {entries : List (String × Option Value)}
    (distinct : (entries.map Prod.fst).Nodup) :
    (∀ named ∈ entries, fields.entry named.1 = some named.2) ↔
      (fields.filter fun field => field.1 ∈ entries.map Prod.fst).Perm (present entries) := by
  have narrow (named : String × Option Value) (membership : named ∈ entries) :
      (fields.filter fun field => field.1 ∈ entries.map Prod.fst).filter
          (fun field => field.1 == named.1) =
        fields.filter fun field => field.1 == named.1 := by
    rw [List.filter_filter]
    apply List.filter_congr
    intro field _
    by_cases same : field.1 = named.1
    · simpa [same] using ⟨named.2, membership⟩
    · simp [same]
  constructor
  · intro found
    rw [List.perm_iff_count]
    intro field
    by_cases known : field.1 ∈ entries.map Prod.fst
    · obtain ⟨named, membership, same⟩ := List.mem_map.mp known
      have counted (list : Fields Value) :
          (list.filter fun entry => entry.1 == named.1).count field = list.count field :=
        List.count_filter (by simp [same])
      rw [← counted, narrow named membership, entry_eq_some_iff.mp (found named membership),
        ← filter_present entries distinct membership, counted]
    · have absent : field ∉ present entries := by
        intro inPresent
        obtain ⟨named, membership, inNamed⟩ := List.mem_flatMap.mp inPresent
        obtain ⟨value, -, rfl⟩ := List.mem_map.mp inNamed
        exact known (List.mem_map_of_mem membership)
      rw [List.count_eq_zero.mpr absent, List.count_eq_zero]
      simp [known]
  · intro same named membership
    have narrowed := same.filter fun field => field.1 == named.1
    rw [narrow named membership, filter_present entries distinct membership] at narrowed
    rw [entry_eq_some_iff]
    cases found : named.2 with
    | none => simpa [found] using narrowed
    | some value => simpa [found, List.perm_singleton] using narrowed

/-! ## Edits that a decoder does not see -/

/-- Two ways to write down one record, for a decoder that knows some names and
has defaults: entries may change places, and an entry may be added that is
unknown or spells out a default. -/
inductive Edit (known : List String) (defaults : Fields Value) : Fields Value → Fields Value → Prop
  | reorder {fields fields' : Fields Value} (perm : fields.Perm fields') :
      Edit known defaults fields fields'
  | add {fields : Fields Value} {name : String} {value : Value}
      (missing : ∀ field ∈ fields, field.1 ≠ name)
      (unseen : name ∉ known ∨ (name, value) ∈ defaults) :
      Edit known defaults fields ((name, value) :: fields)

/-- Two readings of an entry that differ at most in a default that one of them
spells out. -/
inductive SameEntry (defaults : Fields Value) (name : String) :
    Option (Option Value) → Option (Option Value) → Prop
  | same (found : Option (Option Value)) : SameEntry defaults name found found
  | spelledOut {value : Value} (isDefault : (name, value) ∈ defaults) :
      SameEntry defaults name (some none) (some (some value))

variable {known : List String} {defaults fields' : Fields Value}

theorem entry_of_perm (perm : fields.Perm fields') (name : String) :
    fields.entry name = fields'.entry name := by
  apply Option.ext
  intro found
  rw [entry_eq_some_iff, entry_eq_some_iff]
  have narrowed := perm.filter fun field => field.1 == name
  cases found with
  | none =>
      simp only [Option.toList_none, List.map_nil]
      constructor
      · intro nothing
        exact List.nil_perm.mp (nothing ▸ narrowed)
      · intro nothing
        exact List.perm_nil.mp (nothing ▸ narrowed)
  | some value =>
      simp only [Option.toList_some, List.map_cons, List.map_nil]
      constructor
      · intro single
        exact (List.singleton_perm.mp (single ▸ narrowed)).symm
      · intro single
        exact List.perm_singleton.mp (single ▸ narrowed)

theorem Edit.sameEntry (edit : Edit known defaults fields fields') {name : String}
    (isKnown : name ∈ known) :
    SameEntry defaults name (fields.entry name) (fields'.entry name) := by
  cases edit with
  | reorder perm =>
      rw [entry_of_perm perm name]
      exact .same _
  | @add added value missing unseen =>
      by_cases same : added = name
      · subst same
        rw [entry_of_missing missing, entry_cons_self missing]
        exact .spelledOut (unseen.resolve_left (not_not_intro isKnown))
      · rw [entry_cons_of_ne same]
        exact .same _

/-- A field without a default is read as before. -/
theorem Edit.entry (edit : Edit known defaults fields fields') {name : String}
    (isKnown : name ∈ known) (noDefault : name ∉ defaults.map Prod.fst) :
    fields'.entry name = fields.entry name := by
  have sameEntry := edit.sameEntry isKnown
  generalize Fields.entry fields name = found, Fields.entry fields' name = found' at sameEntry ⊢
  cases sameEntry with
  | same => rfl
  | spelledOut isDefault => exact absurd (List.mem_map_of_mem isDefault) noDefault

theorem Edit.required (edit : Edit known defaults fields fields') {name : String}
    (isKnown : name ∈ known) (noDefault : name ∉ defaults.map Prod.fst)
    (read : Value → Option Result) :
    fields'.required name read = fields.required name read := by
  rw [Fields.required, Fields.required, edit.entry isKnown noDefault]

theorem Edit.optional (edit : Edit known defaults fields fields') {name : String}
    (isKnown : name ∈ known) (noDefault : name ∉ defaults.map Prod.fst)
    (read : Value → Option (Option Result)) :
    fields'.optional name read = fields.optional name read := by
  rw [Fields.optional, Fields.optional, edit.entry isKnown noDefault]

/-- A field with a default is read as before if every spelling of the default
is read as the default. -/
theorem Edit.defaulted (edit : Edit known defaults fields fields') {name : String}
    (isKnown : name ∈ known) {default : Result} {read : Value → Option Result}
    (spellings : ∀ value, (name, value) ∈ defaults → read value = some default) :
    fields'.defaulted name default read = fields.defaulted name default read := by
  have sameEntry := edit.sameEntry isKnown
  unfold Fields.defaulted
  generalize Fields.entry fields name = found, Fields.entry fields' name = found' at sameEntry ⊢
  cases sameEntry with
  | same => rfl
  | spelledOut isDefault => exact spellings _ isDefault

end Fields

end Foundations
