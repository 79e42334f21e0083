import HttpHandler.Text.Basic

/-!
# Header fields

A table of header fields. Names are kept in lower case and in the order of their first insertion, the
values of one name together and in their own order.
-/

namespace HttpHandler

structure Headers where
  entries : List (String × List Bytes)
deriving Repr, DecidableEq

namespace Headers

/-- The spelling under which a name is kept: names do not differ in the case of ASCII letters. -/
def canonical (name : String) : String := String.ofList (name.toList.map Char.toLower)

def contentType : String := "content-type"

def cookie : String := "cookie"

def empty : Headers := ⟨[]⟩

def lookup (name : String) (entries : List (String × List Bytes)) : List Bytes :=
  (entries.lookup name).getD []

def values (headers : Headers) (name : String) : List Bytes :=
  lookup (canonical name) headers.entries

/-- Changes the values of a name by `f`, in place; a new name goes to the end. -/
def update (name : String) (f : List Bytes → List Bytes) :
    List (String × List Bytes) → List (String × List Bytes)
  | [] => [(name, f [])]
  | (other, kept) :: rest =>
    if other = name then (other, f kept) :: rest else (other, kept) :: update name f rest

def append (headers : Headers) (name : String) (value : Bytes) : Headers :=
  ⟨update (canonical name) (· ++ [value]) headers.entries⟩

def replace (headers : Headers) (name : String) (values : List Bytes) : Headers :=
  ⟨update (canonical name) (fun _ => values) headers.entries⟩

/-- Takes over the fields of another table. What it says about a name replaces what was known. -/
def extend (headers other : Headers) : Headers :=
  other.entries.foldl (fun table (name, values) => table.replace name values) headers

def ofList (fields : List (String × Bytes)) : Headers :=
  fields.foldl (fun table (name, value) => table.append name value) empty

theorem lookup_cons (name other : String) (values : List Bytes)
    (rest : List (String × List Bytes)) :
    lookup name ((other, values) :: rest) = if name = other then values else lookup name rest := by
  by_cases same : name = other
  · simp [lookup, same]
  · simp [lookup, List.lookup_cons, beq_eq_false_iff_ne.mpr same, same]

theorem lookup_update (name other : String) (f : List Bytes → List Bytes)
    (entries : List (String × List Bytes)) :
    lookup other (update name f entries) =
      if other = name then f (lookup name entries) else lookup other entries := by
  induction entries with
  | nil => simp only [update, lookup_cons]; rfl
  | cons entry rest ih =>
    obtain ⟨kept, values⟩ := entry
    by_cases found : kept = name
    · subst found
      by_cases same : other = kept <;> simp [update, lookup_cons, same]
    · by_cases same : other = kept
      · simp [update, lookup_cons, same, found]
      · simp [update, lookup_cons, same, found, Ne.symm found, ih]

@[simp] theorem values_empty (name : String) : empty.values name = [] := rfl

theorem values_append (headers : Headers) (name other : String) (value : Bytes) :
    (headers.append name value).values other =
      if canonical other = canonical name then headers.values name ++ [value]
      else headers.values other :=
  lookup_update _ _ _ _

theorem values_replace (headers : Headers) (name other : String) (values : List Bytes) :
    (headers.replace name values).values other =
      if canonical other = canonical name then values else headers.values other :=
  lookup_update _ _ _ _

def fields (headers : Headers) : List (String × Bytes) :=
  headers.entries.flatMap fun (name, values) => values.map fun value => (name, value)

/-- Whether a byte is visible ASCII, a space or a tab. -/
def isReadable (byte : UInt8) : Bool := (0x20 ≤ byte && byte < 0x7F) || byte == 0x09

def text? (value : Bytes) : Option String :=
  if value.all isReadable then some (String.ofList (value.map fun byte => Char.ofNat byte.toNat))
  else none

/-- How a byte of a value is shown: quotation marks and unreadable bytes are escaped. -/
def shownByte (byte : UInt8) : List Char :=
  if byte = 0x22 then ['\\', '"']
  else if isReadable byte then [Char.ofNat byte.toNat]
  else '\\' :: 'x' :: Nat.toDigits 16 byte.toNat

def shownValue (value : Bytes) : String :=
  String.ofList ('"' :: (value.flatMap shownByte ++ ['"']))

def shown (headers : Headers) : String :=
  "\x7b" ++ String.intercalate ", "
    (headers.fields.map fun (name, value) => "\"" ++ name ++ "\": " ++ shownValue value) ++ "\x7d"

end Headers

end HttpHandler
