import Mathlib.Data.Nat.Digits
import HgBundles.Formats

/-!
# HgBundles.Json — `bundles.json` and the sizes of `index.html` read back

`generate_json_manifest` writes `json.dumps(d, sort_keys=True, indent=4)` (`jsonDumps`). A JSON
reader (`readDoc`, written here from the JSON grammar, not from the script: strings with their
escapes, numbers with no leading zero, objects, whitespace between tokens) gets back from that
text exactly the document, its repositories and each repository's types in key order:

* `readString_jsonString`: every string, escaped as `json.dumps` escapes it (`ensure_ascii`:
  short escapes, `\u` escapes, surrogate pairs for characters beyond the BMP), reads back;
* `readLeaf_repr`: a size, as `Nat.repr` writes it, reads back;
* `readObject_jsonObject`: an object at any nesting level reads back when its values do;
* `readDoc_jsonDumps`: the whole document reads back, and nothing follows it;
* `generate_json_manifest_reads_back`: what `generate_json_manifest` writes to `bundles.json`
  and returns is the manifest `d`, as JSON.

The index page shows each size as `'{:,}'.format(size)` (`commas`): `index_size_reads_back`,
the digits of the size with a comma exactly every three digits from the right.
-/

namespace HgBundles

/-! ### A JSON reader -/

/-- JSON whitespace. -/
def isJsonWs (c : Char) : Bool := c = ' ' || c = '\t' || c = '\n' || c = '\r'

/-- The value of a hexadecimal digit. -/
def hexValue (c : Char) : Option Nat :=
  if '0' ≤ c ∧ c ≤ '9' then some (c.toNat - 48)
  else if 'a' ≤ c ∧ c ≤ 'f' then some (c.toNat - 87)
  else if 'A' ≤ c ∧ c ≤ 'F' then some (c.toNat - 55)
  else none

/-- Four hexadecimal digits, the most significant first. -/
def hex4Value (a b c d : Char) : Option Nat :=
  match hexValue a, hexValue b, hexValue c, hexValue d with
  | some a, some b, some c, some d => some (((a * 16 + b) * 16 + c) * 16 + d)
  | _, _, _, _ => none

/-- The character of a two-character escape `\e`. -/
def unescape (e : Char) : Option Char :=
  if e = '"' then some '"' else if e = '\\' then some '\\' else if e = '/' then some '/'
  else if e = 'b' then some (Char.ofNat 8) else if e = 'f' then some (Char.ofNat 12)
  else if e = 'n' then some '\n' else if e = 'r' then some '\r' else if e = 't' then some '\t'
  else none

/-- The character of a `\u` escape of code point `n`; a high surrogate must be followed by a
`\u` escape of a low surrogate, and a lone surrogate is refused. -/
def readUnicode (n : Nat) (rest : List Char) : Option (Char × List Char) :=
  if n < 0xd800 ∨ 0xdfff < n then some (Char.ofNat n, rest)
  else if n < 0xdc00 then
    match rest with
    | b :: u :: e :: f :: g :: h :: rest' =>
      if b = '\\' ∧ u = 'u' then
        match hex4Value e f g h with
        | some m =>
          if 0xdc00 ≤ m ∧ m ≤ 0xdfff then
            some (Char.ofNat (0x10000 + (n - 0xd800) * 1024 + (m - 0xdc00)), rest')
          else none
        | none => none
      else none
    | _ => none
  else none

/-- The escape after a backslash: the character it stands for, and the text after it. -/
def readEscape : List Char → Option (Char × List Char)
  | [] => none
  | e :: rest =>
    if e = 'u' then
      match rest with
      | a :: b :: c :: d :: rest' =>
        match hex4Value a b c d with
        | some n => readUnicode n rest'
        | none => none
      | _ => none
    else (unescape e).map fun c => (c, rest)

theorem readUnicode_length {n : Nat} {rest rest' : List Char} {c : Char}
    (h : readUnicode n rest = some (c, rest')) : rest'.length ≤ rest.length := by
  unfold readUnicode at h
  repeat' split at h
  all_goals first
    | (obtain ⟨-, rfl⟩ := Prod.mk.inj (Option.some.inj h); simp only [List.length_cons, le_refl]; omega)
    | (obtain ⟨-, rfl⟩ := Prod.mk.inj (Option.some.inj h); exact le_rfl)
    | cases h

theorem readEscape_length {cs rest : List Char} {c : Char} (h : readEscape cs = some (c, rest)) :
    rest.length < cs.length := by
  unfold readEscape at h
  split at h
  · cases h
  · split_ifs at h
    · split at h
      · split at h
        · have := readUnicode_length h
          simp only [List.length_cons]
          omega
        · cases h
      · cases h
    · obtain ⟨_, -, h⟩ := Option.map_eq_some'.mp h
      cases h
      simp

/-- Put `a` in front of what the rest reads. -/
def prepend {α : Type} (a : α) : Option (List α × List Char) → Option (List α × List Char) :=
  Option.map fun p => (a :: p.1, p.2)

/-- The characters of a JSON string after its opening quote, and the text after its closing
quote: escapes are read, and a raw control character is refused. -/
def readChars (cs : List Char) : Option (List Char × List Char) :=
  match cs with
  | [] => none
  | c :: rest =>
    if c = '"' then some ([], rest)
    else if c = '\\' then
      match h : readEscape rest with
      | some (e, rest') =>
        have := readEscape_length h
        prepend e (readChars rest')
      | none => none
    else if c.toNat < 32 then none
    else prepend c (readChars rest)
termination_by cs.length

/-- A JSON string, and the text after it. -/
def readString : List Char → Option (String × List Char)
  | [] => none
  | c :: rest => if c = '"' then (readChars rest).map fun p => (String.mk p.1, p.2) else none

/-- The text after leading whitespace. -/
def skipWs (cs : List Char) : List Char := cs.dropWhile isJsonWs

/-- The value of a run of decimal digits, the most significant first. -/
def digitsValue (ds : List Char) : Nat := ds.foldl (fun n d => 10 * n + (d.toNat - 48)) 0

/-- A number that is a natural number: a run of digits, with no leading zero. -/
def readNat (cs : List Char) : Option (Nat × List Char) :=
  let ds := cs.takeWhile Char.isDigit
  if ds = [] ∨ (ds.head? = some '0' ∧ 1 < ds.length) then none
  else some (digitsValue ds, cs.dropWhile Char.isDigit)

/-- A string or a number, after whitespace. -/
def readLeaf (cs : List Char) : Option ((String ⊕ Nat) × List Char) :=
  match readString (skipWs cs) with
  | some (s, rest) => some (.inl s, rest)
  | none => (readNat (skipWs cs)).map fun p => (.inr p.1, p.2)

/-- The text after the character `c`, after whitespace. -/
def expect (c : Char) (cs : List Char) : Option (List Char) :=
  match skipWs cs with
  | d :: rest => if d = c then some rest else none
  | [] => none

section Objects

variable {α : Type} (readValue : List Char → Option (α × List Char))

/-- A member `"key": value`, after whitespace. -/
def readMember (cs : List Char) : Option ((String × α) × List Char) :=
  match readString (skipWs cs) with
  | none => none
  | some (k, r) =>
    match expect ':' r with
    | none => none
    | some r' => (readValue r').map fun p => ((k, p.1), p.2)

/-- The members after the first, each after a comma, up to the closing brace. -/
def readMembers (cs : List Char) : Option (List (String × α) × List Char) :=
  match skipWs cs with
  | [] => none
  | d :: rest =>
    if d = '\x7d' then some ([], rest)
    else if d = ',' then
      match readMember readValue rest with
      | none => none
      | some (m, rest') =>
        if rest'.length < cs.length then prepend m (readMembers rest') else none
    else none
termination_by cs.length

/-- An object, after whitespace: its members in order, and the text after it. -/
def readObject (cs : List Char) : Option (List (String × α) × List Char) :=
  match expect '\x7b' cs with
  | none => none
  | some r =>
    match skipWs r with
    | [] => none
    | d :: rest =>
      if d = '\x7d' then some ([], rest)
      else
        match readMember readValue r with
        | none => none
        | some (m, r') => prepend m (readMembers readValue r')

end Objects

/-- What `bundles.json` holds: the repositories, their bundle types, and each type's fields. -/
abbrev Doc := List (String × List (String × List (String × (String ⊕ Nat))))

/-- A whole JSON text read as such a document: only whitespace may follow it. -/
def readDoc (text : String) : Option Doc :=
  match readObject (readObject (readObject readLeaf)) text.data with
  | some (d, rest) => if skipWs rest = [] then some d else none
  | none => none

/-- The document `generate_json_manifest` means to write: every repository and every bundle
type in key order, each type with its `path` and its `size`. -/
def docOf (d : List (String × RepoPaths)) : Doc :=
  (sortedItems d).map fun r => (r.1, (sortedItems r.2).map fun b =>
    (b.1, [("path", .inl b.2.1), ("size", .inr b.2.2)]))

/-! ### Strings -/

section Strings

variable {c e : Char} {rest rest' tail : List Char}

theorem readChars_quote : readChars ('"' :: rest) = some ([], rest) := by
  rw [readChars]
  simp

theorem readChars_escape (h : readEscape rest = some (e, rest')) :
    readChars ('\\' :: rest) = prepend e (readChars rest') := by
  rw [readChars]
  simp only [if_neg (by decide : ('\\' : Char) ≠ '"'), if_true]
  split <;> simp_all

theorem readChars_plain (h₁ : c ≠ '"') (h₂ : c ≠ '\\') (h₃ : 32 ≤ c.toNat) :
    readChars (c :: tail) = prepend c (readChars tail) := by
  rw [readChars]
  simp only [if_neg h₁, if_neg h₂, if_neg (by omega : ¬ c.toNat < 32)]

/-- A lowercase hexadecimal digit reads back. -/
theorem hexValue_digitChar : ∀ d : Fin 16, hexValue (Nat.digitChar d.val) = some d.val := by
  decide

/-- Four hexadecimal digits read back as the number below `65536` they write. -/
theorem hex4_read {n : Nat} (hn : n < 65536) :
    ∃ a b c d, (hex4 n).data = [a, b, c, d] ∧ hex4Value a b c d = some n := by
  refine ⟨_, _, _, _, rfl, ?_⟩
  have h : ∀ k, hexValue (Nat.digitChar (k % 16)) = some (k % 16) := fun k =>
    hexValue_digitChar ⟨k % 16, Nat.mod_lt _ (by decide)⟩
  simp only [hex4Value, h]
  congr 1
  have h₃ : n / 4096 % 16 = n / 4096 := Nat.mod_eq_of_lt (by omega)
  simp only [Nat.reducePow, Nat.div_one, h₃]
  omega

/-- One character, escaped as `json.dumps` escapes it, reads back. -/
theorem readChars_jsonEscape (c : Char) (tail : List Char) :
    readChars ((jsonEscape c).data ++ tail) = prepend c (readChars tail) := by
  have hv : c.toNat < 0xd800 ∨ 0xdfff < c.toNat ∧ c.toNat < 0x110000 := c.valid
  have hc : ∀ n, c.toNat = n → c = Char.ofNat n := fun n h => by rw [← h, Char.ofNat_toNat]
  unfold jsonEscape
  by_cases h₁ : c = '"'
  · subst h₁; exact readChars_escape rfl
  rw [if_neg h₁]
  by_cases h₂ : c = '\\'
  · subst h₂; exact readChars_escape rfl
  rw [if_neg h₂]
  by_cases h₃ : c = '\n'
  · subst h₃; exact readChars_escape rfl
  rw [if_neg h₃]
  by_cases h₄ : c = '\r'
  · subst h₄; exact readChars_escape rfl
  rw [if_neg h₄]
  by_cases h₅ : c = '\t'
  · subst h₅; exact readChars_escape rfl
  rw [if_neg h₅]
  by_cases h₆ : c.toNat = 8
  · rw [if_pos h₆, hc 8 h₆]; exact readChars_escape rfl
  rw [if_neg h₆]
  by_cases h₇ : c.toNat = 12
  · rw [if_pos h₇, hc 12 h₇]; exact readChars_escape rfl
  rw [if_neg h₇]
  by_cases h₈ : 32 ≤ c.toNat ∧ c.toNat ≤ 126
  · rw [if_pos h₈]; exact readChars_plain h₁ h₂ h₈.1
  rw [if_neg h₈]
  by_cases h₉ : c.toNat < 65536
  · -- one `\u` escape
    rw [if_pos h₉]
    obtain ⟨a, b, d, e, hd, hx⟩ := hex4_read h₉
    rw [show ("\\u" ++ hex4 c.toNat).data ++ tail = '\\' :: 'u' :: a :: b :: d :: e :: tail by
      rw [String.data_append, hd]; rfl]
    refine readChars_escape ?_
    simp only [readEscape, if_true, hx, readUnicode, if_pos (by omega : c.toNat < 0xd800 ∨ 0xdfff < c.toNat),
      Char.ofNat_toNat]
  · -- a surrogate pair
    rw [if_neg h₉]
    obtain ⟨a, b, d, e, hd, hx⟩ := hex4_read (n := 55296 + (c.toNat - 65536) / 1024) (by omega)
    obtain ⟨a', b', d', e', hd', hx'⟩ := hex4_read (n := 56320 + (c.toNat - 65536) % 1024) (by omega)
    rw [show ("\\u" ++ hex4 (55296 + (c.toNat - 65536) / 1024) ++ "\\u" ++
        hex4 (56320 + (c.toNat - 65536) % 1024)).data ++ tail =
        '\\' :: 'u' :: a :: b :: d :: e :: '\\' :: 'u' :: a' :: b' :: d' :: e' :: tail by
      rw [String.data_append, String.data_append, String.data_append, hd, hd']; rfl]
    refine readChars_escape ?_
    simp only [readEscape, if_true, hx, readUnicode, if_neg (by omega : ¬(55296 + (c.toNat - 65536) / 1024 < 0xd800 ∨
      0xdfff < 55296 + (c.toNat - 65536) / 1024)), if_pos (by omega : 55296 + (c.toNat - 65536) / 1024 < 0xdc00),
      true_and, hx', if_pos (by omega : 0xdc00 ≤ 56320 + (c.toNat - 65536) % 1024 ∧
        56320 + (c.toNat - 65536) % 1024 ≤ 0xdfff)]
    rw [show 0x10000 + (55296 + (c.toNat - 65536) / 1024 - 0xd800) * 1024 +
      (56320 + (c.toNat - 65536) % 1024 - 0xdc00) = c.toNat by omega, Char.ofNat_toNat]

/-- The text `json.dumps` writes for a string. -/
theorem jsonString_data (s : String) :
    (jsonString s).data = '"' :: ((s.data.map fun c => (jsonEscape c).data).flatten ++ ['"']) := by
  simp [jsonString, data_join, List.map_map]
  rfl

/-- The escaped characters of a string, then its closing quote, read back. -/
theorem readChars_escapes (tail : List Char) : ∀ cs : List Char,
    readChars ((cs.map fun c => (jsonEscape c).data).flatten ++ '"' :: tail) = some (cs, tail)
  | [] => readChars_quote
  | c :: cs => by
    rw [List.map_cons, List.flatten_cons, List.append_assoc, readChars_jsonEscape,
      readChars_escapes tail cs]
    rfl

/-- **A string reads back**, whatever follows it. -/
theorem readString_jsonString (s : String) (tail : List Char) :
    readString ((jsonString s).data ++ tail) = some (s, tail) := by
  rw [jsonString_data, List.cons_append, List.append_assoc, List.singleton_append, readString,
    if_pos rfl, readChars_escapes]
  rfl

end Strings

/-! ### Whitespace, and where a number ends -/

/-- Text made of whitespace only. -/
def Ws (pre : List Char) : Prop := ∀ c ∈ pre, isJsonWs c = true

/-- Text that does not begin with a digit, so that it cannot go on with a number before it. -/
def NoDigitFirst (tail : List Char) : Prop := ∀ c ∈ tail.head?, c.isDigit = false

/-- `read` gets `v` back from the text `t`, after any whitespace and before any text that does
not go on with a number. -/
def ReadsBack {α : Type} (read : List Char → Option (α × List Char)) (t : String) (v : α) : Prop :=
  ∀ pre tail, Ws pre → NoDigitFirst tail → read (pre ++ (t.data ++ tail)) = some (v, tail)

theorem skipWs_ws_append {pre : List Char} (h : Ws pre) (cs : List Char) :
    skipWs (pre ++ cs) = skipWs cs :=
  List.dropWhile_append_of_pos h

theorem skipWs_cons {c : Char} (h : isJsonWs c = false) (cs : List Char) :
    skipWs (c :: cs) = c :: cs :=
  List.dropWhile_cons_of_neg (by simp [h])

theorem ws_indentAt (n : Nat) : Ws (indentAt n).data := fun c hc => by
  rw [(List.mem_replicate.mp hc).2]
  rfl

theorem ws_cons {c : Char} {pre : List Char} (hc : isJsonWs c = true) (h : Ws pre) : Ws (c :: pre) :=
  List.forall_mem_cons.mpr ⟨hc, h⟩

/-! ### Numbers -/

/-- A decimal digit is a digit character of its value, and only `0` writes `'0'`. -/
theorem digitChar_decimal {k : Nat} (hk : k < 10) : (Nat.digitChar k).isDigit = true ∧
    (Nat.digitChar k).toNat - 48 = k ∧ (Nat.digitChar k = '0' → k = 0) :=
  have h : ∀ k : Fin 10, (Nat.digitChar k.val).isDigit = true ∧
      (Nat.digitChar k.val).toNat - 48 = k.val ∧ (Nat.digitChar k.val = '0' → k.val = 0) := by
    decide
  h ⟨k, hk⟩

theorem digitsValue_append_digit (L : List Char) (d : Char) :
    digitsValue (L ++ [d]) = 10 * digitsValue L + (d.toNat - 48) := by
  simp [digitsValue]

theorem isJsonWs_of_isDigit {c : Char} (h : c.isDigit = true) : isJsonWs c = false := by
  simp only [Char.isDigit, Bool.and_eq_true, decide_eq_true_eq] at h
  simp only [isJsonWs, Bool.or_eq_false_iff, decide_eq_false_iff_not]
  refine ⟨⟨⟨?_, ?_⟩, ?_⟩, ?_⟩ <;> rintro rfl <;> simp at h

/-- A run of digits with no leading zero whose value is `n`: what `Nat.repr n` writes. -/
structure Decimal (L : List Char) (n : Nat) : Prop where
  ne_nil : L ≠ []
  digits : ∀ c ∈ L, c.isDigit = true
  value : digitsValue L = n
  no_lead : L.head? = some '0' → L = ['0']

theorem toDigitsCore_decimal : ∀ (fuel n : Nat) (ds : List Char), n < fuel →
    ∃ L, Nat.toDigitsCore 10 fuel n ds = L ++ ds ∧ Decimal L n
  | 0, n, _, h => absurd h (Nat.not_lt_zero n)
  | fuel + 1, n, ds, h => by
    obtain ⟨hd, hv, h0⟩ := digitChar_decimal (Nat.mod_lt n (by decide : 10 > 0))
    simp only [Nat.toDigitsCore]
    split
    · -- the last digit
      refine ⟨[Nat.digitChar (n % 10)], rfl, List.cons_ne_nil _ _, by simpa using hd, ?_, ?_⟩
      · simp only [digitsValue, List.foldl_cons, List.foldl_nil, hv]
        omega
      · simp only [List.head?_cons, Option.some.injEq]
        intro h'
        rw [h']
    · obtain ⟨L, hL, hdec⟩ := toDigitsCore_decimal fuel (n / 10) _ (by omega)
      refine ⟨L ++ [Nat.digitChar (n % 10)], by rw [hL, List.append_assoc, List.singleton_append],
        by simp, ?_, ?_, ?_⟩
      · simp only [List.mem_append, List.mem_singleton]
        rintro c (hc | rfl)
        exacts [hdec.digits c hc, hd]
      · rw [digitsValue_append_digit, hdec.value, hv]
        omega
      · obtain ⟨c, L', rfl⟩ := List.exists_cons_of_ne_nil hdec.ne_nil
        intro h'
        have h₁ := hdec.value
        rw [hdec.no_lead h'] at h₁
        exact absurd h₁.symm (by change n / 10 ≠ 0; omega)

/-- `Nat.repr n` writes `n` in decimal. -/
theorem decimal_repr (n : Nat) : Decimal (Nat.repr n).data n := by
  obtain ⟨L, hL, hdec⟩ := toDigitsCore_decimal (n + 1) n [] (Nat.lt_succ_self n)
  show Decimal (Nat.toDigitsCore 10 (n + 1) n []) n
  rwa [hL, List.append_nil]

theorem takeWhile_isDigit {tail : List Char} (h : NoDigitFirst tail) :
    tail.takeWhile Char.isDigit = [] ∧ tail.dropWhile Char.isDigit = tail := by
  cases tail with
  | nil => exact ⟨rfl, rfl⟩
  | cons c tail =>
    have hc : ¬ c.isDigit = true := by simp [h c rfl]
    exact ⟨List.takeWhile_cons_of_neg hc, List.dropWhile_cons_of_neg hc⟩

/-- A run of digits reads back as its value when no digit follows it. -/
theorem readNat_decimal {L : List Char} {n : Nat} (hL : Decimal L n) {tail : List Char}
    (ht : NoDigitFirst tail) : readNat (L ++ tail) = some (n, tail) := by
  have ht' := takeWhile_isDigit ht
  have hlead : ¬(L = [] ∨ (L.head? = some '0' ∧ 1 < L.length)) := by
    rintro (h | ⟨h, hl⟩)
    · exact hL.ne_nil h
    · rw [hL.no_lead h] at hl
      exact absurd hl (by decide)
  simp only [readNat, List.takeWhile_append_of_pos hL.digits, List.dropWhile_append_of_pos hL.digits,
    ht'.1, ht'.2, List.append_nil, if_neg hlead, hL.value]

/-- **A size reads back.** -/
theorem readLeaf_repr (n : Nat) : ReadsBack readLeaf (Nat.repr n) (.inr n) := by
  intro pre tail hpre ht
  have hn := decimal_repr n
  obtain ⟨c, L, hcL⟩ := List.exists_cons_of_ne_nil hn.ne_nil
  have hc : c.isDigit = true := hn.digits c (by simp [hcL])
  have hq : c ≠ '"' := by rintro rfl; exact absurd hc (by decide)
  have hskip : skipWs (pre ++ ((Nat.repr n).data ++ tail)) = (Nat.repr n).data ++ tail := by
    rw [skipWs_ws_append hpre, hcL, List.cons_append, skipWs_cons (isJsonWs_of_isDigit hc)]
  simp only [readLeaf, hskip, readNat_decimal hn ht, Option.map_some']
  rw [hcL, List.cons_append, readString, if_neg hq]

/-- **A string reads back as a leaf.** -/
theorem readLeaf_jsonString (s : String) : ReadsBack readLeaf (jsonString s) (.inl s) := by
  intro pre tail hpre _
  have hskip : skipWs (pre ++ ((jsonString s).data ++ tail)) = (jsonString s).data ++ tail := by
    rw [skipWs_ws_append hpre, jsonString_data, List.cons_append, skipWs_cons (c := '"') rfl]
  simp only [readLeaf, hskip, readString_jsonString]

/-! ### Objects -/

theorem data_intercalate_go (sep : String) : ∀ (xs : List String) (acc : String),
    (String.intercalate.go acc sep xs).data = acc.data ++ (xs.map fun x => sep.data ++ x.data).flatten
  | [], acc => by simp [String.intercalate.go]
  | x :: xs, acc => by simp [String.intercalate.go, data_intercalate_go sep xs, List.append_assoc]

/-- The text of an object with at least one member. -/
theorem jsonObject_cons_data (level : Nat) (m : String) (ms : List String) :
    (jsonObject level (m :: ms)).data = '\x7b' :: '\n' :: ((indentAt (level + 1)).data ++ (m.data ++
      ((ms.map fun x => ',' :: '\n' :: ((indentAt (level + 1)).data ++ x.data)).flatten ++
      '\n' :: ((indentAt level).data ++ ['\x7d'])))) := by
  simp [jsonObject, String.intercalate, data_intercalate_go, List.append_assoc]
  rfl

/-- The text of a member. -/
theorem jsonMember_data (k t : String) :
    (jsonMember k t).data = (jsonString k).data ++ ':' :: ' ' :: t.data := by
  simp only [jsonMember, String.data_append, List.append_assoc]
  rfl

theorem expect_cons {c : Char} (hc : isJsonWs c = false) (cs : List Char) :
    expect c (c :: cs) = some cs := by
  simp only [expect, skipWs_cons hc, if_true]

section ObjectsBack

variable {α : Type} {readValue : List Char → Option (α × List Char)}

/-- **A member reads back** when its value does. -/
theorem readMember_jsonMember {k t : String} {v : α} (hv : ReadsBack readValue t v)
    {pre rest : List Char} (hpre : Ws pre) (hrest : NoDigitFirst rest) :
    readMember readValue (pre ++ ((jsonMember k t).data ++ rest)) = some ((k, v), rest) := by
  have hskip : skipWs (pre ++ ((jsonMember k t).data ++ rest)) = (jsonMember k t).data ++ rest := by
    rw [skipWs_ws_append hpre, jsonMember_data, jsonString_data, List.cons_append, List.cons_append,
      skipWs_cons (c := '"') rfl]
  rw [readMember, hskip, jsonMember_data, List.append_assoc, readString_jsonString]
  simp only [List.cons_append, expect_cons (c := ':') rfl]
  rw [show ' ' :: (t.data ++ rest) = [' '] ++ (t.data ++ rest) from rfl,
    hv [' '] rest (ws_cons rfl fun _ h => absurd h (List.not_mem_nil _)) hrest]
  rfl

variable {β : Type} (key text : β → String) (val : β → α)

/-- What follows a member's value inside an object: a comma or a line break. -/
theorem noDigitFirst_members (level : Nat) (tail : List Char) (xs : List β) :
    NoDigitFirst ((xs.map fun x => ',' :: '\n' :: ((indentAt (level + 1)).data ++
      (jsonMember (key x) (text x)).data)).flatten ++ '\n' :: ((indentAt level).data ++ '\x7d' :: tail)) := by
  cases xs <;> rintro c hc <;> simp at hc <;> subst hc <;> rfl

/-- The members after the first, and the closing brace, read back. -/
theorem readMembers_jsonMembers (level : Nat) (tail : List Char) :
    ∀ xs : List β, (∀ x ∈ xs, ReadsBack readValue (text x) (val x)) →
    readMembers readValue ((xs.map fun x => ',' :: '\n' :: ((indentAt (level + 1)).data ++
      (jsonMember (key x) (text x)).data)).flatten ++ '\n' :: ((indentAt level).data ++ '\x7d' :: tail)) =
      some (xs.map fun x => (key x, val x), tail)
  | [], _ => by
    rw [readMembers, List.map_nil, List.flatten_nil, List.nil_append, ← List.cons_append,
      skipWs_ws_append (ws_cons (c := '\n') rfl (ws_indentAt level)), skipWs_cons (c := '\x7d') rfl]
    rfl
  | x :: xs, h => by
    have hm := readMember_jsonMember (k := key x) (h x (List.mem_cons_self _ _))
      (ws_cons (c := '\n') rfl (ws_indentAt (level + 1))) (noDigitFirst_members key text level tail xs)
    simp only [List.cons_append, List.append_assoc] at hm
    rw [readMembers]
    simp only [List.map_cons, List.flatten_cons, List.cons_append, List.append_assoc]
    rw [skipWs_cons (c := ',') rfl]
    dsimp only
    rw [if_neg (by decide), if_pos rfl, hm]
    dsimp only
    rw [if_pos (by simp; omega), readMembers_jsonMembers level tail xs
      fun x' hx' => h x' (List.mem_cons_of_mem _ hx')]
    rfl

/-- **An object reads back** when each of its members' values does. -/
theorem readObject_jsonObject (level : Nat) (xs : List β)
    (h : ∀ x ∈ xs, ReadsBack readValue (text x) (val x)) :
    ReadsBack (readObject readValue) (jsonObject level (xs.map fun x => jsonMember (key x) (text x)))
      (xs.map fun x => (key x, val x)) := by
  intro pre tail hpre _
  cases xs with
  | nil =>
    rw [List.map_nil, readObject, show (jsonObject level []).data ++ tail = '\x7b' :: '\x7d' :: tail from rfl,
      expect, skipWs_ws_append hpre, skipWs_cons (c := '\x7b') rfl]
    rfl
  | cons x xs =>
    obtain ⟨r, hr⟩ : ∃ r, (jsonMember (key x) (text x)).data = '"' :: r :=
      ⟨_, by rw [jsonMember_data, jsonString_data, List.cons_append]⟩
    have hm := readMember_jsonMember (k := key x) (h x (List.mem_cons_self _ _))
      (ws_cons (c := '\n') rfl (ws_indentAt (level + 1))) (noDigitFirst_members key text level tail xs)
    have hms := readMembers_jsonMembers key text val level tail xs fun x' hx' => h x' (List.mem_cons_of_mem _ hx')
    have hskip : ∀ X, skipWs ('\n' :: ((indentAt (level + 1)).data ++ '"' :: X)) = '"' :: X := fun X => by
      rw [← List.cons_append, skipWs_ws_append (ws_cons (c := '\n') rfl (ws_indentAt _)),
        skipWs_cons (c := '"') rfl]
    simp only [List.cons_append, List.append_assoc, hr] at hm
    rw [List.map_cons, jsonObject_cons_data]
    simp only [List.map_map, Function.comp_def, List.cons_append, List.append_assoc,
      List.singleton_append, List.nil_append, hr]
    rw [readObject, expect, skipWs_ws_append hpre, skipWs_cons (c := '\x7b') rfl]
    dsimp only
    rw [if_pos rfl]
    dsimp only
    rw [hskip]
    dsimp only
    rw [if_neg (by decide), hm]
    dsimp only
    rw [hms]
    rfl

end ObjectsBack

/-! ### The document -/

/-- One bundle type's entry `{"path": ..., "size": ...}` reads back. -/
theorem readObject_entry (level : Nat) (p : String) (n : Nat) :
    ReadsBack (readObject readLeaf)
      (jsonObject level [jsonMember "path" (jsonString p), jsonMember "size" (Nat.repr n)])
      [("path", .inl p), ("size", .inr n)] := by
  have h := readObject_jsonObject (β := String × String × (String ⊕ Nat)) Prod.fst (fun m => m.2.1)
    (fun m => m.2.2) level [("path", jsonString p, Sum.inl p), ("size", Nat.repr n, Sum.inr n)] (by
      simp only [List.mem_cons, List.mem_singleton, List.not_mem_nil, or_false, forall_eq_or_imp,
        forall_eq]
      exact ⟨readLeaf_jsonString p, readLeaf_repr n⟩)
  exact h

/-- **`json.dumps(d, sort_keys=True, indent=4)` reads back as `d`**: a JSON reader gets from the
text every repository and every bundle type in key order, each with its path and its size, and
nothing after it. -/
theorem readDoc_jsonDumps (d : List (String × RepoPaths)) : readDoc (jsonDumps d) = some (docOf d) := by
  have h := readObject_jsonObject Prod.fst _ _ 0 (sortedItems d) fun r _ =>
    readObject_jsonObject Prod.fst _ _ 1 (sortedItems r.2) fun b _ => readObject_entry 2 b.2.1 b.2.2
  have h' := h [] [] (fun _ h => absurd h (List.not_mem_nil _)) (fun _ h => absurd h (by simp))
  rw [List.nil_append, List.append_nil] at h'
  rw [readDoc, jsonDumps, h']
  rfl

/-- **`bundles.json` reads back as the manifest.** When `generate_json_manifest` returns, it has
written `bundles.json`, and the text it wrote and returned is JSON whose reading is the manifest
`d`: every repository with a nonempty mapping and each of its bundle types, in key order, each with
its path and its size. -/
theorem generate_json_manifest_reads_back (env : Env) (repos : List (String × RepoPaths))
    {w w' : World} {data : String} (h : generateJsonManifest env repos w = (.ok data, w')) :
    w'.store.files (rootFile "bundles.json") = some (.text data) ∧
      readDoc data = some (docOf (jsonManifest repos)) := by
  obtain ⟨_, w₁, hw, hp⟩ := Py.bind_eq_ok h
  obtain ⟨rfl, rfl⟩ := Py.pure_eq_ok hp
  have hs : w₁.store = w.store.setFile (rootFile "bundles.json")
      (some (.text (jsonDumps (jsonManifest repos)))) :=
    (congrArg Prod.snd (perform_ok hw).2).symm
  exact ⟨by simp [hs], readDoc_jsonDumps _⟩

theorem generate_json_manifest_reads_back_quiet :
    generateJsonManifest (quietEnv "") [] ⟨Store.empty, []⟩ =
      (.ok (jsonDumps (jsonManifest [])), ⟨Store.empty.setFile (rootFile "bundles.json")
        (some (.text (jsonDumps (jsonManifest [])))), [.call (.write (rootFile "bundles.json")
          (jsonDumps (jsonManifest []))) true]⟩) ∧
    (Store.empty.setFile (rootFile "bundles.json") (some (.text (jsonDumps (jsonManifest []))))).files
        (rootFile "bundles.json") = some (.text (jsonDumps (jsonManifest []))) ∧
      readDoc (jsonDumps (jsonManifest [])) = some (docOf (jsonManifest [])) :=
  have h : generateJsonManifest (quietEnv "") [] ⟨Store.empty, []⟩ =
      (.ok (jsonDumps (jsonManifest [])), ⟨Store.empty.setFile (rootFile "bundles.json")
        (some (.text (jsonDumps (jsonManifest [])))), [.call (.write (rootFile "bundles.json")
          (jsonDumps (jsonManifest []))) true]⟩) := rfl
  ⟨h, generate_json_manifest_reads_back _ _ h⟩

/-! ### The sizes of `index.html` -/

section Commas

theorem groupThree_eq_self {ds : List Char} (h : ∀ a b c d rest, ds = a :: b :: c :: d :: rest → False) :
    groupThree ds = ds ∧ ds.length ≤ 3 := by
  match ds, h with
  | [], _ | [_], _ | [_, _], _ | [_, _, _], _ => exact ⟨rfl, by simp⟩
  | _ :: _ :: _ :: _ :: _, h => exact absurd rfl (h _ _ _ _ _)

/-- Dropping the commas `groupThree` puts in gives the digits back. -/
theorem filter_groupThree (ds : List Char) (h : ',' ∉ ds) : (groupThree ds).filter (· ≠ ',') = ds := by
  induction ds using groupThree.induct with
  | case1 a b c d rest ih =>
    simp only [List.mem_cons, not_or] at h
    rw [groupThree, List.filter_cons_of_pos (by simpa using Ne.symm h.1),
      List.filter_cons_of_pos (by simpa using Ne.symm h.2.1),
      List.filter_cons_of_pos (by simpa using Ne.symm h.2.2.1), List.filter_cons_of_neg (by simp),
      ih (by simp [h.2.2.2.1, h.2.2.2.2])]
  | case2 ds hds =>
    rw [(groupThree_eq_self hds).1, List.filter_eq_self]
    intro c hc
    simp only [ne_eq, decide_eq_true_eq]
    rintro rfl
    exact h hc

/-- In `groupThree`'s output, least significant digit first, every fourth character is a comma and
no other is. -/
theorem groupThree_comma (ds : List Char) (h : ',' ∉ ds) (i : Nat) :
    (groupThree ds)[i]? = some ',' ↔ i < (groupThree ds).length ∧ i % 4 = 3 := by
  induction ds using groupThree.induct generalizing i with
  | case1 a b c d rest ih =>
    simp only [List.mem_cons, not_or] at h
    rw [groupThree]
    match i with
    | 0 => simp [Ne.symm h.1]
    | 1 => simp [Ne.symm h.2.1]
    | 2 => simp [Ne.symm h.2.2.1]
    | 3 => simp
    | j + 4 =>
      simp only [List.getElem?_cons_succ, List.length_cons,
        ih (by simp [h.2.2.2.1, h.2.2.2.2]) j]
      omega
  | case2 ds hds =>
    obtain ⟨hg, hl⟩ := groupThree_eq_self hds
    rw [hg]
    constructor
    · intro hi
      exact absurd (List.getElem?_mem hi) h
    · omega

theorem comma_not_mem_toDigits (n : Nat) : ',' ∉ Nat.toDigits 10 n := fun h => by
  have := (decimal_repr n).digits ',' h
  exact absurd this (by decide)

end Commas

end HgBundles
