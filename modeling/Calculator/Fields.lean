/-!
# Named fields

Values under names, in the order in which the names came first.  A name stands
only once: what is put under it later takes the place of what was there.
-/

namespace Calculator

abbrev Fields (α : Type) := List (String × α)

namespace Fields

variable {α : Type}

def get? (fields : Fields α) (name : String) : Option α :=
  fields.lookup name

def has (fields : Fields α) (name : String) : Bool :=
  fields.any (·.1 == name)

def names (fields : Fields α) : List String :=
  fields.map Prod.fst

/-- Puts a value under a name: where the name stands, or at the end. -/
def insert (name : String) (value : α) : Fields α → Fields α
  | [] => [(name, value)]
  | field :: rest =>
    if field.1 = name then (name, value) :: rest else field :: insert name value rest

@[simp] theorem insert_nil (name : String) (value : α) :
    insert name value [] = [(name, value)] := rfl

@[simp] theorem get?_nil (name : String) : get? ([] : Fields α) name = none := rfl

theorem get?_cons (field : String × α) (rest : Fields α) (name : String) :
    get? (field :: rest) name = if name = field.1 then some field.2 else get? rest name := by
  obtain ⟨key, value⟩ := field
  by_cases h : name = key
  · simp [get?, h]
  · simp [get?, List.lookup_cons, beq_false_of_ne h, h]

theorem mem_of_get? {fields : Fields α} {name : String} {value : α}
    (h : get? fields name = some value) : (name, value) ∈ fields := by
  induction fields with
  | nil => cases h
  | cons field rest ih =>
      rw [get?_cons] at h
      split at h
      · next hname =>
          obtain rfl := Option.some.inj h
          exact hname ▸ List.mem_cons_self ..
      · exact List.mem_cons_of_mem _ (ih h)

theorem get?_insert (fields : Fields α) (name other : String) (value : α) :
    get? (insert name value fields) other =
      if other = name then some value else get? fields other := by
  induction fields with
  | nil => simp [insert, get?_cons]
  | cons field rest ih =>
      by_cases hk : field.1 = name
      · subst hk
        by_cases h : other = field.1 <;> simp [insert, get?_cons, h]
      · by_cases h : other = field.1
        · subst h
          simp [insert, get?_cons, hk]
        · simp [insert, get?_cons, hk, h, ih]

theorem mem_names_insert {fields : Fields α} {name other : String} {value : α} :
    other ∈ names (insert name value fields) ↔ other = name ∨ other ∈ names fields := by
  induction fields with
  | nil => simp [insert, names]
  | cons field rest ih =>
      by_cases h : field.1 = name
      · subst h
        simp [insert, names]
      · simp only [names, insert, h, if_false, List.map_cons, List.mem_cons] at ih ⊢
        rw [ih]
        exact or_left_comm

/-- Putting a value under a name keeps the names apart. -/
theorem nodup_names_insert {fields : Fields α} (h : (names fields).Nodup) (name : String)
    (value : α) : (names (insert name value fields)).Nodup := by
  induction fields with
  | nil => simp [insert, names]
  | cons field rest ih =>
      have ⟨hfresh, hrest⟩ := List.nodup_cons.1 h
      by_cases hk : field.1 = name
      · subst hk
        simpa [insert, names] using h
      · simp only [insert, hk, if_false]
        refine List.nodup_cons.2 ⟨fun hmem => ?_, ih hrest⟩
        rcases mem_names_insert.1 hmem with heq | hold
        · exact hk heq
        · exact hfresh hold

/-- Puts all of `later` into `fields`, one after the other. -/
def update (fields later : Fields α) : Fields α :=
  later.foldl (fun all field => insert field.1 field.2 all) fields

@[simp] theorem update_nil (fields : Fields α) : update fields [] = fields := rfl

theorem update_cons (fields : Fields α) (field : String × α) (rest : Fields α) :
    update fields (field :: rest) = update (insert field.1 field.2 fields) rest := rfl

theorem mem_names_update {fields later : Fields α} {name : String} :
    name ∈ names (update fields later) ↔ name ∈ names fields ∨ name ∈ names later := by
  induction later generalizing fields with
  | nil => simp [names]
  | cons field rest ih =>
      show name ∈ names (update (insert field.1 field.2 fields) rest) ↔ _
      rw [ih, mem_names_insert]
      simp only [names, List.map_cons, List.mem_cons]
      exact or_assoc.trans or_left_comm

/-- A new name comes last. -/
theorem insert_of_notMem {fields : Fields α} {name : String} (h : name ∉ names fields)
    (value : α) : insert name value fields = fields ++ [(name, value)] := by
  induction fields with
  | nil => rfl
  | cons field rest ih =>
      obtain ⟨hfirst, hrest⟩ := not_or.1 (mt List.mem_cons.2 h)
      rw [insert, if_neg (Ne.symm hfirst), ih hrest]
      rfl

theorem mem_of_mem_insert {fields : Fields α} {name : String} {value : α} {field : String × α}
    (h : field ∈ insert name value fields) : field = (name, value) ∨ field ∈ fields := by
  induction fields with
  | nil => exact Or.inl (List.mem_singleton.1 h)
  | cons first rest ih =>
      unfold insert at h
      split at h
      · rcases List.mem_cons.1 h with hnew | hrest
        · exact Or.inl hnew
        · exact Or.inr (List.mem_cons_of_mem _ hrest)
      · rcases List.mem_cons.1 h with hfirst | hrest
        · exact Or.inr (hfirst ▸ List.mem_cons_self ..)
        · exact (ih hrest).imp_right (List.mem_cons_of_mem _)

theorem mem_of_mem_update {fields later : Fields α} {field : String × α}
    (h : field ∈ update fields later) : field ∈ fields ∨ field ∈ later := by
  induction later generalizing fields with
  | nil => exact Or.inl h
  | cons first rest ih =>
      have hsplit : field ∈ insert first.1 first.2 fields ∨ field ∈ rest := ih h
      rcases hsplit with hmem | hrest
      · rcases mem_of_mem_insert hmem with heq | hold
        · exact Or.inr (heq ▸ List.mem_cons_self ..)
        · exact Or.inl hold
      · exact Or.inr (List.mem_cons_of_mem _ hrest)

theorem nodup_names_update {fields : Fields α} (h : (names fields).Nodup) (later : Fields α) :
    (names (update fields later)).Nodup := by
  induction later generalizing fields with
  | nil => exact h
  | cons field rest ih => exact ih (nodup_names_insert h _ _)

/-! ### Names and look-ups -/

theorem get?_eq_none_iff {fields : Fields α} {name : String} :
    get? fields name = none ↔ name ∉ names fields := by
  induction fields with
  | nil => simp [names]
  | cons field rest ih =>
      rw [get?_cons]
      by_cases h : name = field.1
      · simp [names, h]
      · rw [if_neg h, ih]
        simp [names, h]

theorem exists_get?_of_mem_names {fields : Fields α} {name : String} (h : name ∈ names fields) :
    ∃ value, get? fields name = some value :=
  Option.ne_none_iff_exists'.1 fun hnone => get?_eq_none_iff.1 hnone h

theorem mem_names_of_get? {fields : Fields α} {name : String} {value : α}
    (h : get? fields name = some value) : name ∈ names fields :=
  List.mem_map_of_mem (mem_of_get? h)

/-- Where no name comes twice, every value is found under its name. -/
theorem get?_of_mem {fields : Fields α} {field : String × α} (hnodup : (names fields).Nodup)
    (hmem : field ∈ fields) : get? fields field.1 = some field.2 := by
  induction fields with
  | nil => cases hmem
  | cons first rest ih =>
      obtain ⟨hfirst, hrest⟩ := List.nodup_cons.1 hnodup
      rw [get?_cons]
      rcases List.mem_cons.1 hmem with rfl | hmem
      · exact if_pos rfl
      · have hne : field.1 ≠ first.1 := by
          rintro heq
          exact hfirst (heq ▸ List.mem_map_of_mem hmem)
        rw [if_neg hne]
        exact ih hrest hmem

theorem has_eq_true_iff {fields : Fields α} {name : String} :
    has fields name = true ↔ name ∈ names fields := by
  simp [has, names]

theorem get?_append (first second : Fields α) (name : String) :
    get? (first ++ second) name = (get? first name).or (get? second name) :=
  List.lookup_append

/-- What is put in last under a name is found there. -/
theorem get?_update (fields later : Fields α) (name : String) :
    get? (update fields later) name = (get? later.reverse name).or (get? fields name) := by
  induction later generalizing fields with
  | nil => rfl
  | cons field rest ih =>
      rw [update_cons, ih, get?_insert, List.reverse_cons, get?_append, Option.or_assoc, get?_cons]
      by_cases h : name = field.1
      · rw [if_pos h, if_pos h, Option.some_or]
      · rw [if_neg h, if_neg h, get?_nil, Option.none_or]

theorem names_insert (fields : Fields α) (name : String) (value : α) :
    names (insert name value fields) =
      if name ∈ names fields then names fields else names fields ++ [name] := by
  induction fields with
  | nil => rfl
  | cons field rest ih =>
      by_cases h : field.1 = name
      · simp [insert, names, h]
      · rw [insert, if_neg h]
        show field.1 :: names (insert name value rest) = _
        rw [ih]
        by_cases hrest : name ∈ names rest
        · have hall : name ∈ names (field :: rest) := List.mem_cons_of_mem _ hrest
          rw [if_pos hrest, if_pos hall]
          rfl
        · have hall : name ∉ names (field :: rest) :=
            not_or.2 ⟨Ne.symm h, hrest⟩ ∘ List.mem_cons.1
          rw [if_neg hrest, if_neg hall]
          rfl

/-- The names do not depend on the values. -/
theorem names_update_congr {β : Type} {fields later : Fields α} {fields' later' : Fields β}
    (h : names fields = names fields') (hlater : names later = names later') :
    names (update fields later) = names (update fields' later') := by
  induction later generalizing fields fields' later' with
  | nil =>
      obtain rfl : later' = [] := List.map_eq_nil_iff.1 hlater.symm
      exact h
  | cons field rest ih =>
      cases later' with
      | nil => cases hlater
      | cons field' rest' =>
          obtain ⟨hname, hrest⟩ := List.cons.inj hlater
          rw [update_cons, update_cons]
          refine ih ?_ hrest
          rw [names_insert, names_insert, h, hname]

/-- New names come after those that are there, in their order. -/
theorem update_of_disjoint {fields later : Fields α} (hnodup : (names later).Nodup)
    (hnew : ∀ name ∈ names later, name ∉ names fields) :
    update fields later = fields ++ later := by
  induction later generalizing fields with
  | nil => exact (List.append_nil fields).symm
  | cons field rest ih =>
      obtain ⟨hfresh, hrest⟩ := List.nodup_cons.1 hnodup
      obtain ⟨hfirst, hothers⟩ := List.forall_mem_cons.1 hnew
      rw [update_cons, insert_of_notMem hfirst]
      rw [ih hrest fun name hname => ?_]
      · simp
      · rintro hmem
        rw [names, List.map_append, List.mem_append] at hmem
        rcases hmem with hold | hlast
        · exact hothers name hname hold
        · obtain rfl : name = field.1 := by simpa using hlast
          exact hfresh hname

end Fields

end Calculator
