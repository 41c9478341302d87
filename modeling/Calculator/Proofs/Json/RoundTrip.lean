import Calculator.Json.Encoding
import Calculator.Proofs.Json.Compact
import Calculator.Proofs.Json.Strings

/-!
# Values are read back

What is written of a value on one line is read as its datum again, if no numbers stand in
it (`Plain`).

The proof joins the two passes of the reader (`resume?`): from a phase that waits for a
value, the text of the value leads to the phase with the value put in place
(`resume?_write`).  The induction is on the value.  Items and fields are in turn inductions
on lists, with what has been read before generalised; each item begins where a value is
waited for, either after the bracket or after a comma.  The words for truth and for nothing
end only where the next character is a mark, which all characters behind a value are.
-/

namespace Calculator.Json

open Calculator.Text

variable {phase : Phase} {frames : List Frame} {rest : List Point}

/-! ### The two passes at once -/

/-- What a phase comes to with the rest of a text. -/
def resume? (phase : Phase) (text : List Point) : Option Phase :=
  (lexemesFrom? .between text).bind (List.foldlM Phase.step? phase)

theorem resume?_nil (phase : Phase) : resume? phase [] = some phase :=
  rfl

theorem read?_eq_resume? (text : List Point) :
    read? text =
      (resume? (.wantsDatum []) text).bind fun
        | .finished datum => some datum
        | _ => none := by
  unfold read? resume?
  cases lexemesFrom? .between text <;> rfl

/-- A text whose lexemes begin with a given one. -/
theorem resume?_of_lexemesFrom? {lexeme : Lexeme} {text : List Point}
    (h : lexemesFrom? .between text = (lexemesFrom? .between rest).map (lexeme :: ·)) :
    resume? phase text = (phase.step? lexeme).bind (resume? · rest) := by
  unfold resume?
  rw [h]
  cases lexemesFrom? .between rest with
  | none => cases phase.step? lexeme <;> rfl
  | some lexemes => rfl

theorem resume?_stringText (text : String) (rest : List Point) :
    resume? phase (points (stringText false text) ++ rest) =
      (phase.step? (.scalar (.text (points text)))).bind (resume? · rest) :=
  resume?_of_lexemesFrom? (lexemesFrom?_stringText text rest)

theorem resume?_mark (c : Char) (mark : Lexeme) (hblank : blank c = false) (hquote : c ≠ '\x22')
    (hmark : mark? c = some mark) (rest : List Point) :
    resume? phase (.char c :: rest) = (phase.step? mark).bind (resume? · rest) := by
  refine resume?_of_lexemesFrom? ?_
  have hstep : Place.between.step? c = some (.between, [mark]) := by
    simp [Place.step?, hblank, hquote, hmark]
  rw [lexemesFrom?_cons, hstep]
  rfl

/-- The text ends, or goes on with a mark. -/
def Seam (text : List Point) : Prop :=
  ∀ p ∈ text.head?, p = .char ',' ∨ p = .char ']' ∨ p = .char '\x7d'

theorem seam_nil : Seam [] := nofun

theorem seam_comma (rest : List Point) : Seam (.char ',' :: rest) := by
  simp [Seam]

/-- A word ends at a seam. -/
theorem lexemesFrom?_word {letters : List Char} {datum : Datum}
    (hword : word? letters.reverse = some datum) (hrest : Seam rest) :
    lexemesFrom? (.word letters) rest =
      (lexemesFrom? .between rest).map (.scalar datum :: ·) := by
  cases rest with
  | nil => simp [lexemesFrom?, hword]
  | cons p rest =>
      have hmark : ∃ c mark, p = .char c ∧ Place.between.step? c = some (.between, [mark]) ∧
          (Place.word letters).step? c = some (.between, [.scalar datum, mark]) := by
        rcases hrest p rfl with rfl | rfl | rfl
        · exact ⟨_, .comma, rfl, rfl, by simp [Place.step?, blank, mark?, hword]⟩
        · exact ⟨_, .listClose, rfl, rfl, by simp [Place.step?, blank, mark?, hword]⟩
        · exact ⟨_, .recordClose, rfl, rfl, by simp [Place.step?, blank, mark?, hword]⟩
      obtain ⟨c, mark, rfl, hbetween, hword⟩ := hmark
      rw [lexemesFrom?_cons, lexemesFrom?_cons, hbetween, hword]
      simp only [Option.bind_some, Option.map_map]
      rfl

/-- The character stands for itself in a word. -/
def isLetter (c : Char) : Bool :=
  !blank c && c != '\x22' && (mark? c).isNone

theorem step?_letter {place : Place} {letters : List Char} {c : Char} (h : isLetter c = true)
    (hplace : place = .between ∧ letters = [] ∨ place = .word letters) :
    place.step? c = some (.word (c :: letters), []) := by
  simp only [isLetter, Bool.and_eq_true, Bool.not_eq_true', bne_iff_ne, Option.isNone_iff_eq_none]
    at h
  obtain ⟨⟨hblank, hquote⟩, hmark⟩ := h
  rcases hplace with ⟨rfl, rfl⟩ | rfl <;> simp [Place.step?, hblank, hquote, hmark]

theorem lexemesFrom?_letters (letters : List Char) {word : List Char}
    (hword : word.all isLetter = true) (rest : List Point) :
    lexemesFrom? (.word letters) (word.map .char ++ rest) =
      lexemesFrom? (.word (word.reverse ++ letters)) rest := by
  induction word generalizing letters with
  | nil => rfl
  | cons c word ih =>
      obtain ⟨hc, hword⟩ := Bool.and_eq_true_iff.1 hword
      rw [List.map_cons, List.cons_append, lexemesFrom?_of_step (step?_letter hc (Or.inr rfl)),
        ih (c :: letters) hword]
      simp

theorem resume?_word {first : Char} {word : List Char} {datum : Datum}
    (hletters : (first :: word).all isLetter = true)
    (hword : word? (first :: word) = some datum) (hrest : Seam rest) :
    resume? phase ((first :: word).map .char ++ rest) =
      (phase.step? (.scalar datum)).bind (resume? · rest) := by
  obtain ⟨hfirst, hletters⟩ := Bool.and_eq_true_iff.1 hletters
  refine resume?_of_lexemesFrom? ?_
  rw [List.map_cons, List.cons_append, lexemesFrom?_of_step (step?_letter hfirst (Or.inl ⟨rfl, rfl⟩)),
    lexemesFrom?_letters _ hletters]
  exact lexemesFrom?_word (by simpa using hword) hrest

/-! ### Values -/

/-- A value in which no numbers stand. -/
inductive Plain : Value → Prop
  | null : Plain .null
  | truth (b : Bool) : Plain (.truth b)
  | text (s : String) : Plain (.text s)
  | list {items : List Value} (h : ∀ item ∈ items, Plain item) : Plain (.list items)
  | record {fields : Fields Value} (h : ∀ field ∈ fields, Plain field.2) : Plain (.record fields)

/-- The phase waits for a datum, which will come into the frames. -/
structure Awaits (phase : Phase) (frames : List Frame) : Prop where
  scalar (datum : Datum) : phase.step? (.scalar datum) = some (.placed datum frames)
  listOpen : phase.step? .listOpen = some (.firstItem frames)
  recordOpen : phase.step? .recordOpen = some (.firstName frames)

theorem awaits_wantsDatum (frames : List Frame) : Awaits (.wantsDatum frames) frames :=
  ⟨fun _ => rfl, rfl, rfl⟩

theorem awaits_firstItem (frames : List Frame) :
    Awaits (.firstItem frames) (.list [] :: frames) :=
  ⟨fun _ => rfl, rfl, rfl⟩

/-- The phase waits for the name of a field, behind those of a record so far. -/
def AwaitsName (phase : Phase) (frames : List Frame) (fields : List (List Point × Datum)) : Prop :=
  ∀ name, phase.step? (.scalar (.text name)) = some (.colon frames fields name)

/-- Where a datum is waited for, the text of the value puts it in place. -/
def ReadsBack (value : Value) : Prop :=
  ∀ (depth : Nat) {phase : Phase} {frames : List Frame} {rest : List Point}, Awaits phase frames →
    Seam rest → resume? phase (points (writeAt .compact depth value) ++ rest) =
      resume? (.placed (.ofValue value) frames) rest

theorem readsBack_word {value : Value} (first : Char) (word : List Char)
    (hwrite : ∀ depth, (writeAt .compact depth value).toList = first :: word)
    (hletters : (first :: word).all isLetter = true)
    (hword : word? (first :: word) = some (.ofValue value)) :
    ReadsBack value := by
  intro depth phase frames rest hphase hrest
  rw [points, hwrite, resume?_word hletters hword hrest, hphase.scalar]
  rfl

theorem readsBack_null : ReadsBack .null := by
  refine readsBack_word 'n' ['u', 'l', 'l'] (fun depth => ?_) rfl rfl
  rw [writeAt]
  rfl

theorem readsBack_truth (b : Bool) : ReadsBack (.truth b) := by
  cases b with
  | true =>
      refine readsBack_word 't' ['r', 'u', 'e'] (fun depth => ?_) rfl rfl
      rw [writeAt]
      rfl
  | false =>
      refine readsBack_word 'f' ['a', 'l', 's', 'e'] (fun depth => ?_) rfl rfl
      rw [writeAt]
      rfl

theorem readsBack_text (s : String) : ReadsBack (.text s) := by
  intro depth phase frames rest hphase hrest
  rw [writeAt]
  show resume? phase (points (stringText false s) ++ rest) = _
  rw [resume?_stringText, hphase.scalar]
  rfl

/-! ### Lists -/

/-- The items of a list, from one that is waited for up to the bracket. -/
theorem resume?_items {depth : Nat} {item : Value} {items : List Value} {done : List Datum}
    (hitem : ReadsBack item) (hitems : ∀ next ∈ items, ReadsBack next)
    (hphase : Awaits phase (.list done :: frames)) (rest : List Point) :
    resume? phase (points (Text.join "," ((item :: items).map (writeAt .compact depth))) ++
        .char ']' :: rest) =
      resume? (.placed (.list (done.reverse ++ (item :: items).map .ofValue)) frames) rest := by
  induction items generalizing phase item done with
  | nil =>
      have hseam : Seam (.char ']' :: rest) := by simp [Seam]
      show resume? phase (points (writeAt .compact depth item) ++ .char ']' :: rest) = _
      rw [hitem depth hphase hseam, resume?_mark ']' .listClose rfl (by decide) rfl]
      simp [Phase.placed, Phase.step?]
  | cons next items ih =>
      obtain ⟨hnext, hitems⟩ := List.forall_mem_cons.1 hitems
      have htext : points (Text.join "," ((item :: next :: items).map (writeAt .compact depth))) ++
          .char ']' :: rest =
        points (writeAt .compact depth item) ++
          .char ',' :: (points (Text.join "," ((next :: items).map (writeAt .compact depth))) ++
            .char ']' :: rest) := by
        simp [Text.join, points]
      rw [htext, hitem depth hphase (seam_comma _),
        resume?_mark ',' .comma rfl (by decide) rfl]
      show resume? (.wantsDatum (.list (.ofValue item :: done) :: frames)) _ = _
      rw [ih hnext hitems (awaits_wantsDatum _)]
      simp

theorem readsBack_list {items : List Value} (h : ∀ item ∈ items, ReadsBack item) :
    ReadsBack (.list items) := by
  intro depth phase frames rest hphase hrest
  have htext : points (writeAt .compact depth (.list items)) ++ rest =
      .char '[' :: (points (Text.join "," (items.map (writeAt .compact (depth + 1)))) ++
        .char ']' :: rest) := by
    simp [writeAt_compact_list, points]
  rw [htext, resume?_mark '[' .listOpen rfl (by decide) rfl, hphase.listOpen,
    Option.bind_some, Datum.ofValue, Datum.ofItems_eq_map]
  cases items with
  | nil =>
      show resume? (.firstItem frames) (.char ']' :: rest) = _
      rw [resume?_mark ']' .listClose rfl (by decide) rfl]
      rfl
  | cons item items =>
      obtain ⟨hitem, hitems⟩ := List.forall_mem_cons.1 h
      exact resume?_items hitem hitems (awaits_firstItem frames) rest

/-! ### Records -/

/-- A field as it is read. -/
def readField (field : String × Value) : List Point × Datum :=
  Datum.written (field.1, .ofValue field.2)

/-- One field, from its name that is waited for up to its value. -/
theorem resume?_field {depth : Nat} {field : String × Value} {done : List (List Point × Datum)}
    (hfield : ReadsBack field.2) (hphase : AwaitsName phase frames done) (hrest : Seam rest) :
    resume? phase (points (compactField depth field) ++ rest) =
      resume? (.afterField frames (readField field :: done)) rest := by
  have htext : points (compactField depth field) ++ rest =
      points (stringText false field.1) ++
        .char ':' :: (points (writeAt .compact depth field.2) ++ rest) := by
    simp [compactField, points]
  rw [htext, resume?_stringText, hphase, Option.bind_some,
    resume?_mark ':' .colon rfl (by decide) rfl]
  show resume? (.wantsDatum (.record done (points field.1) :: frames)) _ = _
  rw [hfield depth (awaits_wantsDatum _) hrest]
  rfl

/-- The fields of a record, from a name that is waited for up to the brace. -/
theorem resume?_fields {depth : Nat} {field : String × Value} {fields : Fields Value}
    {done : List (List Point × Datum)} (hfield : ReadsBack field.2)
    (hfields : ∀ next ∈ fields, ReadsBack next.2) (hphase : AwaitsName phase frames done)
    (rest : List Point) :
    resume? phase (points (Text.join "," ((field :: fields).map (compactField depth))) ++
        .char '\x7d' :: rest) =
      resume? (.placed (.record (done.reverse ++ (field :: fields).map readField)) frames)
        rest := by
  induction fields generalizing phase field done with
  | nil =>
      have hseam : Seam (.char '\x7d' :: rest) := by simp [Seam]
      show resume? phase (points (compactField depth field) ++ .char '\x7d' :: rest) = _
      rw [resume?_field hfield hphase hseam, resume?_mark '\x7d' .recordClose rfl (by decide) rfl]
      simp [Phase.step?]
  | cons next fields ih =>
      obtain ⟨hnext, hfields⟩ := List.forall_mem_cons.1 hfields
      have htext : points (Text.join "," ((field :: next :: fields).map (compactField depth))) ++
          .char '\x7d' :: rest =
        points (compactField depth field) ++
          .char ',' :: (points (Text.join "," ((next :: fields).map (compactField depth))) ++
            .char '\x7d' :: rest) := by
        simp [Text.join, points]
      rw [htext, resume?_field hfield hphase (seam_comma _),
        resume?_mark ',' .comma rfl (by decide) rfl]
      show resume? (.wantsName frames (readField field :: done)) _ = _
      rw [ih hnext hfields fun _ => rfl]
      simp

theorem readsBack_record {fields : Fields Value} (h : ∀ field ∈ fields, ReadsBack field.2) :
    ReadsBack (.record fields) := by
  intro depth phase frames rest hphase hrest
  have htext : points (writeAt .compact depth (.record fields)) ++ rest =
      .char '\x7b' :: (points (Text.join "," (fields.map (compactField (depth + 1)))) ++
        .char '\x7d' :: rest) := by
    simp [writeAt_compact_record, points]
  rw [htext, resume?_mark '\x7b' .recordOpen rfl (by decide) rfl, hphase.recordOpen,
    Option.bind_some, Datum.ofValue, Datum.ofFields_eq_map]
  cases fields with
  | nil =>
      show resume? (.firstName frames) (.char '\x7d' :: rest) = _
      rw [resume?_mark '\x7d' .recordClose rfl (by decide) rfl]
      rfl
  | cons field fields =>
      obtain ⟨hfield, hfields⟩ := List.forall_mem_cons.1 h
      have hphase : AwaitsName (.firstName frames) frames [] := fun _ => rfl
      exact resume?_fields hfield hfields hphase rest

/-! ### Texts and bodies -/

theorem Plain.readsBack {value : Value} (h : Plain value) : ReadsBack value := by
  induction h with
  | null => exact readsBack_null
  | truth b => exact readsBack_truth b
  | text s => exact readsBack_text s
  | list h ih => exact readsBack_list ih
  | record h ih => exact readsBack_record ih

/-- **A value is read back** from its text. -/
theorem read?_write {value : Value} (h : Plain value) :
    read? (points (write .compact value)) = some (.ofValue value) := by
  have hresume := h.readsBack 0 (awaits_wantsDatum []) seam_nil
  rw [List.append_nil] at hresume
  rw [read?_eq_resume?, write, hresume, resume?_nil]
  rfl

/-- The bytes of a text. -/
def bytes (text : String) : List UInt8 :=
  text.toUTF8.data.toList

/-- Bytes that begin as those of a record encode ASCII characters and the like. -/
theorem detect_record (rest : List Nat) :
    Encoding.detect (0x7b :: 0x22 :: rest) = (.utf8, 0x7b :: 0x22 :: rest) := by
  match rest with
  | [] => rfl
  | [_] => rfl
  | _ :: _ :: _ => rfl

theorem strictPoints?_bytes (text : String) : strictPoints? (bytes text) = some (points text) := by
  have harray : ByteArray.mk (bytes text).toArray = text.toByteArray := by
    simp [bytes]
  rw [strictPoints?, harray, String.fromUTF8?, dif_pos text.isValidUTF8]
  rfl

theorem points?_bytes {text : String} {rest : List UInt8} (h : bytes text = 0x7b :: 0x22 :: rest) :
    points? (bytes text) = some (points text) := by
  have hdetect : Encoding.detect ((bytes text).map UInt8.toNat) =
      (.utf8, (bytes text).map UInt8.toNat) := by
    rw [h]
    exact detect_record _
  have hinverse : UInt8.ofNat ∘ UInt8.toNat = id := funext fun byte => UInt8.ofNat_toNat
  have hback : ((bytes text).map UInt8.toNat).map UInt8.ofNat = bytes text := by
    rw [List.map_map, hinverse, List.map_id]
  rw [points?, hdetect]
  show (strictPoints? (((bytes text).map UInt8.toNat).map UInt8.ofNat)).or _ = _
  rw [hback, strictPoints?_bytes, Option.some_or]

theorem bytes_append (first second : String) :
    bytes (first ++ second) = bytes first ++ bytes second := by
  show (first ++ second).toByteArray.data.toList = _
  rw [String.toByteArray_append, ByteArray.data_append, Array.toList_append]
  rfl

/-- The text of a record with a field begins with a brace and quotes. -/
theorem exists_bytes_of_record (field : String × Value) (fields : Fields Value) :
    ∃ rest, bytes (write .compact (.record (field :: fields))) = 0x7b :: 0x22 :: rest := by
  have hjoin : ∃ others, Text.join "," ((field :: fields).map (compactField 1)) =
      compactField 1 field ++ others := by
    cases fields with
    | nil => exact ⟨"", (String.append_empty).symm⟩
    | cons next fields => exact ⟨_, String.append_assoc⟩
  have hname : stringText false field.1 =
      "\x22" ++ String.ofList (field.1.toList.flatMap (escapedChar false) ++ ['\x22']) := by
    apply String.toList_inj.1
    simp [stringText]
  obtain ⟨others, hothers⟩ := hjoin
  refine ⟨bytes (String.ofList (field.1.toList.flatMap (escapedChar false) ++ ['\x22']) ++ (":" ++
    (writeAt .compact 1 field.2 ++ (others ++ "\x7d")))), ?_⟩
  rw [write, writeAt_compact_record, hothers, compactField, hname]
  simp only [String.append_assoc]
  rw [bytes_append "\x7b", bytes_append "\x22"]
  rfl

/-- **A record is read back** from the bytes of its text. -/
theorem readBody?_write {field : String × Value} {fields : Fields Value}
    (h : Plain (.record (field :: fields))) :
    readBody? (bytes (write .compact (.record (field :: fields)))) =
      some (.ofValue (.record (field :: fields))) := by
  obtain ⟨rest, hbytes⟩ := exists_bytes_of_record field fields
  rw [readBody?, points?_bytes hbytes, Option.bind_some, read?_write h]

end Calculator.Json
