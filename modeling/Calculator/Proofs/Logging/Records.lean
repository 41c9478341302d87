import Calculator.Log.Record
import Mathlib.Data.List.Nodup
import Mathlib.Data.List.Perm.Subperm

/-!
# What a record keeps

A record has a header and the fields of its message, and all of them stand under names in
one place, so that one can take the place of another.  It keeps everything (`Keeps`) just if
all the names are apart (`keeps_iff_nodup`): with two equal names among them there are not
enough places, and without any the fields come behind the header as they are.

Names that a record uses for itself are moved out of the way by a low line in front.  This
leaves two ways for names to meet.

* The names `timestamp`, `level`, `logger` and `session_id` of the header are not moved.  Of
  the whole header only the message is safe.
* The low line may lead to a name that is there already.

`keeps_iff` says that there is no third one.
-/

namespace Calculator.Log

variable {source : Source} {entry : Entry} {time name other : String}

/-! ### Names with a low line -/

theorem fieldName_of_mem (h : name ∈ reservedNames) : fieldName name = "_" ++ name :=
  if_pos (List.contains_iff_mem.2 h)

theorem fieldName_of_notMem (h : name ∉ reservedNames) : fieldName name = name :=
  if_neg (mt List.contains_iff_mem.1 h)

/-- A low line leads away from names that do not begin with one. -/
theorem lowLine_append_notMem {names : List String}
    (h : ∀ first ∈ names, first.toList.head? ≠ some '_') (name : String) :
    "_" ++ name ∉ names := by
  intro hmem
  exact h _ hmem (by simp)

theorem lowLine_append_notMem_reservedNames (name : String) : "_" ++ name ∉ reservedNames :=
  lowLine_append_notMem (by decide) name

/-- Names that are apart meet only where a low line leads to a name that is there. -/
theorem fieldName_eq_iff (h : name ≠ other) :
    fieldName name = fieldName other ↔
      (name ∈ reservedNames ∧ other = "_" ++ name) ∨
        (other ∈ reservedNames ∧ name = "_" ++ other) := by
  -- what a low line leads to is not reserved itself, so no name is moved onto one that is
  by_cases hname : name ∈ reservedNames
  · have hleft : name ≠ "_" ++ other := fun heq =>
      lowLine_append_notMem_reservedNames other (heq ▸ hname)
    by_cases hother : other ∈ reservedNames
    · have hright : other ≠ "_" ++ name := fun heq =>
        lowLine_append_notMem_reservedNames name (heq ▸ hother)
      rw [fieldName_of_mem hname, fieldName_of_mem hother, String.append_right_inj]
      simp [h, hleft, hright]
    · rw [fieldName_of_mem hname, fieldName_of_notMem hother]
      simp [hname, hother, eq_comm]
  · by_cases hother : other ∈ reservedNames
    · rw [fieldName_of_notMem hname, fieldName_of_mem hother]
      simp [hname, hother]
    · rw [fieldName_of_notMem hname, fieldName_of_notMem hother]
      simp [hname, hother, h]

/-! ### All names of a record -/

/-- The names of the header. -/
def headerNames : List String :=
  ["timestamp", "level", "message", "logger", sessionName]

/-- The names of the header that a field can take. -/
def openNames : List String :=
  ["timestamp", "level", "logger", sessionName]

theorem mem_openNames_iff : ∀ name ∈ headerNames, name ∈ openNames ↔ name ∉ reservedNames := by
  decide

namespace Entry

/-- The fields of a message under the names of the record. -/
def renamed (entry : Entry) : Fields Value :=
  entry.fields.map fun field => (fieldName field.1, field.2)

/-- The header but for the session. -/
def caption (entry : Entry) (source : Source) (time : String) : Fields Value :=
  [("timestamp", .text time), ("level", .text entry.level.name),
    ("message", .text entry.message), ("logger", .text source.name)]

/-- The header of a record that keeps everything. -/
def header (entry : Entry) (source : Source) (time : String) : Fields Value :=
  Fields.insert sessionName (.text source.session) (entry.caption source time)

theorem header_eq (entry : Entry) (source : Source) (time : String) :
    entry.header source time =
      [("timestamp", .text time), ("level", .text entry.level.name),
        ("message", .text entry.message), ("logger", .text source.name),
        (sessionName, .text source.session)] := rfl

theorem toFields_eq (entry : Entry) (source : Source) (time : String) :
    entry.toFields source time =
      Fields.update
        (if (entry.session source).isGiven then
          Fields.insert sessionName (.text (entry.session source).shown)
            (entry.caption source time)
        else entry.caption source time)
        (entry.extras source) := rfl

theorem names_renamed (entry : Entry) :
    Fields.names entry.renamed = (Fields.names entry.fields).map fieldName := by
  simp [renamed, Fields.names]

theorem names_header_append (entry : Entry) (source : Source) (time : String) :
    Fields.names (entry.header source time ++ entry.renamed) =
      headerNames ++ Fields.names entry.renamed :=
  List.map_append

/-- A field takes a name of the header if it has that name and the name is open. -/
theorem mem_names_renamed_iff (h : name ∈ headerNames) :
    name ∈ Fields.names entry.renamed ↔ name ∈ openNames ∧ name ∈ Fields.names entry.fields := by
  rw [names_renamed, List.mem_map]
  constructor
  · rintro ⟨other, hother, rfl⟩
    by_cases hreserved : other ∈ reservedNames
    · rw [fieldName_of_mem hreserved] at h
      exact absurd h (lowLine_append_notMem (by decide) other)
    · rw [fieldName_of_notMem hreserved] at h ⊢
      exact ⟨(mem_openNames_iff other h).2 hreserved, hother⟩
  · rintro ⟨hopen, hname⟩
    exact ⟨name, hname, fieldName_of_notMem ((mem_openNames_iff name h).1 hopen)⟩

/-- **When all names are apart:** no field has an open name of the header, and no low line
leads to a name that is there. -/
theorem nodup_names_iff (hnames : (Fields.names entry.fields).Nodup) :
    (headerNames ++ Fields.names entry.renamed).Nodup ↔
      (∀ name ∈ Fields.names entry.fields, name ∉ openNames) ∧
        ∀ name ∈ reservedNames, name ∈ Fields.names entry.fields →
          "_" ++ name ∉ Fields.names entry.fields := by
  have hheader : headerNames.Nodup := by decide
  have hopen : openNames ⊆ headerNames := by decide
  rw [List.nodup_append']
  constructor
  · rintro ⟨-, hrenamed, hdisjoint⟩
    rw [names_renamed, List.nodup_map_iff_inj_on hnames] at hrenamed
    constructor
    · intro name hname hmem
      exact hdisjoint (hopen hmem) ((mem_names_renamed_iff (hopen hmem)).2 ⟨hmem, hname⟩)
    · intro name hreserved hname hmarked
      have hne : name ≠ "_" ++ name := fun heq =>
        lowLine_append_notMem_reservedNames name (heq ▸ hreserved)
      exact hne (hrenamed _ hname _ hmarked ((fieldName_eq_iff hne).2 (Or.inl ⟨hreserved, rfl⟩)))
  · rintro ⟨hfree, hmarked⟩
    refine ⟨hheader, ?_, fun name hmem hname => ?_⟩
    · rw [names_renamed, List.nodup_map_iff_inj_on hnames]
      intro name hname other hother heq
      by_contra hne
      rcases (fieldName_eq_iff hne).1 heq with ⟨hreserved, rfl⟩ | ⟨hreserved, rfl⟩
      · exact hmarked name hreserved hname hother
      · exact hmarked other hreserved hother hname
    · obtain ⟨hname, hfield⟩ := (mem_names_renamed_iff hmem).1 hname
      exact hfree name hfield hname

/-! ### Names that are apart -/

/-- The record is the header and the fields behind it. -/
theorem toFields_of_nodup (hsession : source.session ≠ "")
    (h : (headerNames ++ Fields.names entry.renamed).Nodup) (time : String) :
    entry.toFields source time = entry.header source time ++ entry.renamed := by
  obtain ⟨-, hrenamed, hdisjoint⟩ := List.nodup_append'.1 h
  have hfree : sessionName ∉ Fields.names entry.renamed := fun hmem =>
    hdisjoint (by decide) hmem
  have hnamed : entry.named source = (sessionName, .text source.session) :: entry.renamed := by
    refine Fields.update_of_disjoint hrenamed fun name hname hmem => ?_
    obtain rfl := List.mem_singleton.1 hmem
    exact hfree hname
  have hsource : entry.session source = .text source.session := by
    rw [session, hnamed, Fields.get?_cons, if_pos rfl]
    rfl
  have hextras : entry.extras source = entry.renamed := by
    rw [extras, hnamed, List.filter_cons_of_neg (by simp)]
    refine List.filter_eq_self.2 fun field hfield => ?_
    have hne : field.1 ≠ sessionName := by
      rintro heq
      exact hfree (heq ▸ List.mem_map_of_mem hfield)
    simpa using hne
  have hgiven : (Value.text source.session).isGiven = true := by simp [Value.isGiven, hsession]
  rw [toFields_eq, hsource, hextras, if_pos hgiven]
  exact Fields.update_of_disjoint hrenamed fun name hname hmem => hdisjoint hmem hname

/-! ### Names that a record has -/

theorem mem_names_of_extras (h : name ∈ Fields.names (entry.extras source)) :
    name ∈ Fields.names entry.renamed := by
  obtain ⟨field, hfield, rfl⟩ := List.mem_map.1 h
  obtain ⟨hnamed, hne⟩ := List.mem_filter.1 hfield
  rcases Fields.mem_names_update.1 (List.mem_map_of_mem hnamed) with hsession | hrenamed
  · have heq : field.1 = sessionName := List.mem_singleton.1 hsession
    simp [heq] at hne
  · exact hrenamed

theorem names_update_extras {header : Fields Value} (hnodup : (Fields.names header).Nodup)
    (hsubset : Fields.names header ⊆ headerNames) :
    (Fields.names (header.update (entry.extras source))).Nodup ∧
      Fields.names (header.update (entry.extras source)) ⊆
        headerNames ++ Fields.names entry.renamed := by
  refine ⟨Fields.nodup_names_update hnodup _, fun name hname => List.mem_append.2 ?_⟩
  exact (Fields.mem_names_update.1 hname).imp (@hsubset name) mem_names_of_extras

/-- A record has no names but those of the header and the fields, and each once. -/
theorem names_toFields (entry : Entry) (source : Source) (time : String) :
    (Fields.names (entry.toFields source time)).Nodup ∧
      Fields.names (entry.toFields source time) ⊆ headerNames ++ Fields.names entry.renamed := by
  have hcaption : Fields.names (entry.caption source time) =
      ["timestamp", "level", "message", "logger"] := rfl
  rw [toFields_eq]
  split
  · exact names_update_extras (show headerNames.Nodup by decide) (List.Subset.refl headerNames)
  · exact names_update_extras (hcaption ▸ by decide) (hcaption ▸ by decide)

/-- Where no field comes, the header stays, but for the session. -/
theorem get?_toFields_of_notMem (hname : name ∉ Fields.names entry.renamed)
    (hsession : name ≠ sessionName) (time : String) :
    (entry.toFields source time).get? name = (entry.header source time).get? name := by
  have hextras : Fields.get? (entry.extras source).reverse name = none := by
    refine Fields.get?_eq_none_iff.2 fun hmem => ?_
    rw [Fields.names, List.map_reverse, List.mem_reverse] at hmem
    exact hname (mem_names_of_extras hmem)
  rw [toFields_eq, Fields.get?_update, hextras, Option.none_or, header, Fields.get?_insert,
    if_neg hsession]
  split
  · rw [Fields.get?_insert, if_neg hsession]
  · rfl

/-! ### What a record keeps -/

/-- The record has its own header and every field of the message, and each of them has a
place of its own. -/
structure Keeps (entry : Entry) (source : Source) (time : String) : Prop where
  timestamp : (entry.toFields source time).get? "timestamp" = some (.text time)
  level : (entry.toFields source time).get? "level" = some (.text entry.level.name)
  message : (entry.toFields source time).get? "message" = some (.text entry.message)
  logger : (entry.toFields source time).get? "logger" = some (.text source.name)
  session : (entry.toFields source time).get? sessionName = some (.text source.session)
  fields : ∀ field ∈ entry.fields,
    (entry.toFields source time).get? (fieldName field.1) = some field.2
  places : (entry.toFields source time).length = headerNames.length + entry.fields.length

/-- **A record keeps everything** just if all names are apart. -/
theorem keeps_iff_nodup (hsession : source.session ≠ "") :
    Keeps entry source time ↔ (headerNames ++ Fields.names entry.renamed).Nodup := by
  constructor
  · intro h
    obtain ⟨hnodup, hsubset⟩ := names_toFields entry source time
    -- there are as many places as names, so every name has its own
    have hlength : (headerNames ++ Fields.names entry.renamed).length =
        (Fields.names (entry.toFields source time)).length := by
      rw [List.length_append, names_renamed, Fields.names, Fields.names, List.length_map,
        List.length_map, List.length_map, h.places]
    have hperm := (List.subperm_of_subset hnodup hsubset).perm_of_length_le (Nat.le_of_eq hlength)
    exact hperm.nodup_iff.1 hnodup
  · intro h
    have hrecord := toFields_of_nodup hsession h time
    have hget : ∀ field ∈ entry.header source time ++ entry.renamed,
        (entry.toFields source time).get? field.1 = some field.2 := by
      intro field hfield
      rw [hrecord]
      refine Fields.get?_of_mem ?_ hfield
      rwa [names_header_append]
    obtain ⟨hheader, hfields⟩ := List.forall_mem_append.1 hget
    simp only [header_eq, List.forall_mem_cons] at hheader
    obtain ⟨htime, hlevel, hmessage, hlogger, hown, -⟩ := hheader
    refine ⟨htime, hlevel, hmessage, hlogger, hown, fun field hfield => ?_, ?_⟩
    · exact hfields _ (List.mem_map_of_mem hfield)
    · rw [hrecord, List.length_append, renamed, List.length_map]
      rfl

/-- The message is safe from all fields. -/
theorem get?_message (entry : Entry) (source : Source) (time : String) :
    (entry.toFields source time).get? "message" = some (.text entry.message) := by
  refine (get?_toFields_of_notMem (fun hmem => ?_) (by decide) time).trans rfl
  exact absurd ((mem_names_renamed_iff (by decide)).1 hmem).1 (by decide)

/-- The level is safe from all fields but one of its name. -/
theorem get?_level (h : "level" ∉ Fields.names entry.fields) (source : Source) (time : String) :
    (entry.toFields source time).get? "level" = some (.text entry.level.name) := by
  refine (get?_toFields_of_notMem (fun hmem => ?_) (by decide) time).trans rfl
  exact h ((mem_names_renamed_iff (by decide)).1 hmem).2

/-- **What a log in JSON writes of a message** that passes its threshold is a record.  The
message is always its own, and so is the level, which is handed over apart from the fields
and so is no name of one.  The record keeps all else as well just if no field has the name
of the time, the log or the session, and none has the name that another one gets by the
low line. -/
theorem keeps_iff (hjson : source.json = true)
    (hpasses : entry.level.passes source.threshold = true) (hsession : source.session ≠ "")
    (hnames : (Fields.names entry.fields).Nodup) (hlevel : "level" ∉ Fields.names entry.fields)
    (time : String) :
    source.line? time entry =
        some (Json.write .spaced (.record (entry.toFields source time))) ∧
      (entry.toFields source time).get? "message" = some (.text entry.message) ∧
      (entry.toFields source time).get? "level" = some (.text entry.level.name) ∧
      (Keeps entry source time ↔
        (∀ name ∈ Fields.names entry.fields, name ∉ ["timestamp", "logger", "session_id"]) ∧
          ∀ name ∈ reservedNames, name ∈ Fields.names entry.fields →
            "_" ++ name ∉ Fields.names entry.fields) := by
  have hline : source.line? time entry =
      some (Json.write .spaced (.record (entry.toFields source time))) := by
    rw [Source.line?, if_pos hpasses, if_pos hjson]
  refine ⟨hline, get?_message entry source time, get?_level hlevel source time, ?_⟩
  rw [keeps_iff_nodup hsession, nodup_names_iff hnames]
  refine and_congr_left fun _ => forall₂_congr fun name hname => not_congr ?_
  have hne : name ≠ "level" := fun heq => hlevel (heq ▸ hname)
  simp [openNames, sessionName, hne]

/-- Two fields with names of the record's own, and one that looks like such a name. -/
def reserving : Entry where
  level := .info
  message := "Tool called"
  fields := [("args", .record [("expression", .text "1+1")]), ("name", .text "calc_evaluate"),
    ("_levelname", .whole 1)]

/-- A log that prints records of all levels. -/
def console : Source where
  name := "calcengine"
  session := "5e55104d"
  threshold := 10
  json := true

theorem keeps_reserving :
    reserving.level.passes console.threshold = true ∧
      (Fields.names reserving.fields).Nodup ∧ "level" ∉ Fields.names reserving.fields ∧
      Keeps reserving console "2000-01-02T03:04:05Z" := by
  have hpasses : reserving.level.passes console.threshold = true := rfl
  have hnames : (Fields.names reserving.fields).Nodup := by decide
  have hlevel : "level" ∉ Fields.names reserving.fields := by decide
  obtain ⟨-, -, -, hkeeps⟩ :=
    keeps_iff rfl hpasses (show console.session ≠ "" by decide) hnames hlevel "2000-01-02T03:04:05Z"
  exact ⟨hpasses, hnames, hlevel, hkeeps.2 (by decide)⟩

/-- The fields take the names of the log and of the session. -/
def impersonating : Entry where
  level := .info
  message := "m"
  fields := [("logger", .text "L"), ("session_id", .text "mine")]

/-- The low line leads to a name that is there. -/
def crowding : Entry where
  level := .info
  message := "m"
  fields := [("_args", .whole 2), ("args", .whole 1)]

/-- Fields take the place of the header's entries and of each other.  The log and the session
of the first record are not found in it, and the first field of the second is lost. -/
theorem not_keeps_of_clashes :
    (impersonating.toFields console "2000-01-02T03:04:05Z" =
        [("timestamp", .text "2000-01-02T03:04:05Z"), ("level", .text "INFO"),
          ("message", .text "m"), ("logger", .text "L"), ("session_id", .text "mine")] ∧
      ¬ Keeps impersonating console "2000-01-02T03:04:05Z") ∧
    crowding.toFields console "2000-01-02T03:04:05Z" =
        [("timestamp", .text "2000-01-02T03:04:05Z"), ("level", .text "INFO"),
          ("message", .text "m"), ("logger", .text "calcengine"),
          ("session_id", .text "5e55104d"), ("_args", .whole 1)] ∧
      ¬ Keeps crowding console "2000-01-02T03:04:05Z" := by
  refine ⟨⟨rfl, fun h => ?_⟩, rfl, fun h => ?_⟩
  · exact absurd (Value.text.inj (Option.some.inj h.logger)) (by decide)
  · exact absurd h.places (by decide)

end Entry

end Calculator.Log
