import Calculator.Text.Digit

/-!
# Code points

The texts of the program are made of characters.  A text that comes in from
outside may hold code points that are none, the halves of surrogate pairs.  A
high half and the low one behind it stand for a character where units of sixteen
bits are put together.  A half on its own stands for nothing; a text can hold it
all the same, but such a text has no bytes.
-/

namespace Calculator.Text

/-- Half of a surrogate pair.  The halves are counted from `U+D800` on, the high
ones first. -/
abbrev Half : Type :=
  Fin 0x800

def Half.code (half : Half) : Nat :=
  0xd800 + half

def Half.isHigh (half : Half) : Bool :=
  half < 0x400

/-- A half between quotes, by its code point. -/
def Half.quoted (half : Half) : String :=
  String.ofList ('\x27' :: '\\' :: 'u' :: hexText 4 half.code ++ ['\x27'])

/-- A code point: a character, or half of a surrogate pair. -/
inductive Point where
  | char (c : Char)
  | half (h : Half)
  deriving DecidableEq, Repr

namespace Point

def ofCode (n : Nat) : Point :=
  -- the code of the first half is a multiple of their number
  if 0xd800 ≤ n && n < 0xe000 then half (Fin.ofNat 0x800 n) else char (Char.ofNat n)

def isHalf : Point → Bool
  | char _ => false
  | half _ => true

end Point

/-- The points of a text of the program. -/
def points (text : String) : List Point :=
  text.toList.map .char

@[simp] theorem points_append (first second : String) :
    points (first ++ second) = points first ++ points second := by
  simp [points]

/-- The characters in front of the first half, and the half, if there is one. -/
def splitHalf : List Point → List Char × Option Half
  | [] => ([], none)
  | .half h :: _ => ([], some h)
  | .char c :: rest =>
    let (front, half) := splitHalf rest
    (c :: front, half)

@[simp] theorem splitHalf_map_char (text : List Char) :
    splitHalf (text.map .char) = (text, none) := by
  induction text with
  | nil => rfl
  | cons c text ih => rw [List.map_cons, splitHalf, ih]

@[simp] theorem splitHalf_points (text : String) : splitHalf (points text) = (text.toList, none) :=
  splitHalf_map_char text.toList

@[simp] theorem splitHalf_append_half (front : List Char) (half : Half) (rest : List Point) :
    splitHalf (front.map .char ++ .half half :: rest) = (front, some half) := by
  induction front with
  | nil => rfl
  | cons c front ih => rw [List.map_cons, List.cons_append, splitHalf, ih]

/-- Either all points are characters, or there is a first half. -/
theorem splitHalf_cases (text : List Point) :
    (∃ characters : List Char, text = characters.map .char) ∨
      ∃ (front : List Char) (half : Half) (rest : List Point),
        text = front.map .char ++ .half half :: rest := by
  induction text with
  | nil => exact Or.inl ⟨[], rfl⟩
  | cons p text ih =>
      cases p with
      | half h => exact Or.inr ⟨[], h, text, rfl⟩
      | char c =>
          rcases ih with ⟨characters, rfl⟩ | ⟨front, half, rest, rfl⟩
          · exact Or.inl ⟨c :: characters, rfl⟩
          · exact Or.inr ⟨c :: front, half, rest, rfl⟩

/-- A text that holds no half as a text of the program. -/
def plain? (text : List Point) : Option String :=
  match splitHalf text with
  | (characters, none) => some (String.ofList characters)
  | (_, some _) => none

@[simp] theorem plain?_points (text : String) : plain? (points text) = some text := by
  simp [plain?]

theorem points_ofList (characters : List Char) :
    points (String.ofList characters) = characters.map .char := by
  rw [points, String.toList_ofList]

theorem plain?_eq_some_iff {text : List Point} {plain : String} :
    plain? text = some plain ↔ text = points plain := by
  constructor
  · intro h
    rcases splitHalf_cases text with ⟨characters, rfl⟩ | ⟨front, half, rest, rfl⟩
    · rw [← points_ofList, plain?_points] at h
      rw [← points_ofList, Option.some.inj h]
    · simp [plain?] at h
  · rintro rfl
    exact plain?_points plain

/-! ### Units of sixteen bits -/

/-- A piece of a text in which pairs are not put together yet: a point, or a half
that came as a unit of sixteen bits and may be part of a pair. -/
inductive Piece where
  | point (p : Point)
  | unit (half : Half)
  deriving DecidableEq, Repr

def Piece.ofUnit (n : Nat) : Piece :=
  match Point.ofCode n with
  | .char c => point (.char c)
  | .half h => unit h

/-- The character that a high and a low half stand for together. -/
def paired (high low : Half) : Char :=
  Char.ofNat (0x10000 + high.val * 0x400 + (low.val - 0x400))

/-- Puts every high unit and the low one right behind it together. -/
def assembled : List Piece → List Point
  | [] => []
  | .point p :: rest => p :: assembled rest
  | .unit high :: .unit low :: rest =>
    if high.isHigh && !low.isHigh then .char (paired high low) :: assembled rest
    else .half high :: assembled (.unit low :: rest)
  | .unit h :: rest => .half h :: assembled rest

@[simp] theorem assembled_map_point (text : List Point) : assembled (text.map .point) = text := by
  induction text with
  | nil => rfl
  | cons p text ih => rw [List.map_cons, assembled, ih]

/-! ### Bytes -/

/-- Why a text has no bytes: the first of its halves, where it is, and how many
come in a row there. -/
structure Unencodable where
  half : Half
  position : Nat
  count : Nat
  deriving DecidableEq, Repr

def Unencodable.message (cause : Unencodable) : String :=
  let first := natText cause.position
  let place :=
    if cause.count = 1 then "character " ++ cause.half.quoted ++ " in position " ++ first
    else "characters in position " ++ first ++ "-" ++ natText (cause.position + cause.count - 1)
  "'utf-8' codec can't encode " ++ place ++ ": surrogates not allowed"

/-- The text of the program with the given points, which has their bytes. -/
def encoded (text : List Point) : Except Unencodable String :=
  match splitHalf text with
  | (characters, none) => .ok (String.ofList characters)
  | (front, some half) =>
    .error
      { half
        position := front.length
        count := ((text.drop front.length).takeWhile Point.isHalf).length }

@[simp] theorem encoded_points (text : String) : encoded (points text) = .ok text := by
  simp [encoded]

/-- A text has no bytes if a half stands in it. -/
theorem exists_encoded_eq_error {text : List Point} {half : Half} (h : .half half ∈ text) :
    ∃ cause, encoded text = .error cause := by
  rcases splitHalf_cases text with ⟨characters, rfl⟩ | ⟨front, first, rest, rfl⟩
  · obtain ⟨c, -, hc⟩ := List.mem_map.1 h
    cases hc
  · exact ⟨_, by simp only [encoded, splitHalf_append_half]; rfl⟩

end Calculator.Text
