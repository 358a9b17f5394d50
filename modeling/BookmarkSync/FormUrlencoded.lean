import Mathlib.Data.List.Basic

/-!
# BookmarkSync.FormUrlencoded — `application/x-www-form-urlencoded`, as the `url` crate has it

`determine_query_url_and_validity` reads a `place:` URL's parameters with
`url::form_urlencoded::parse` and writes them back with `form_urlencoded::Serializer`. The
crate is not in the source; this module models the two from its definition, over bytes
as natural numbers:

* `serialize`: every byte of a name or value but ASCII letters, digits and `*-._` is
  written `%XX`, a space `+`; a pair is `name=value`, pairs are joined by `&`;
* `parse`: the input is split at `&`, empty sequences are skipped, each sequence is split
  at its first `=`, and each side is decoded: `+` to a space, `%XX` to its byte, then
  `String::from_utf8_lossy`.

UTF-8 is RFC 3629's, with the table of well-formed sequences Rust's `Utf8Chunks` checks
(`decodeLossy`): a maximal invalid subpart gives one U+FFFD.

What holds:

* `decodeLossy_bytes` — decoding a string's UTF-8 bytes gives the string back;
* `parse_serialize` — parsing what the serializer wrote gives back every pair, with its
  name, its value and its place: the round trip the folder branch of
  `determine_query_url_and_validity` relies on;
* `serialize_isSerialized` — the serializer writes only ASCII letters, digits and
  `*-._%+&=`.
-/

namespace BookmarkSync

namespace FormUrlencoded

/-! ## UTF-8 -/

/-- A character's UTF-8 bytes (RFC 3629 §3), what `str::as_bytes` gives for it. -/
def utf8Encode (c : Char) : List Nat :=
  let n := c.toNat
  if n < 0x80 then [n]
  else if n < 0x800 then [0xC0 + n / 64, 0x80 + n % 64]
  else if n < 0x10000 then [0xE0 + n / 4096, 0x80 + n / 64 % 64, 0x80 + n % 64]
  else [0xF0 + n / 262144, 0x80 + n / 4096 % 64, 0x80 + n / 64 % 64, 0x80 + n % 64]

/-- A string's UTF-8 bytes. -/
def bytes (s : String) : List Nat :=
  s.data.flatMap utf8Encode

/-- `UTF8-tail = %x80-BF`. -/
def isTail (b : Nat) : Bool :=
  0x80 ≤ b && b ≤ 0xBF

/-- The second bytes RFC 3629 allows after a three-byte lead. -/
def second3 (b c : Nat) : Bool :=
  (b == 0xE0 && 0xA0 ≤ c && c ≤ 0xBF) || (0xE1 ≤ b && b ≤ 0xEC && isTail c) ||
    (b == 0xED && 0x80 ≤ c && c ≤ 0x9F) || (0xEE ≤ b && b ≤ 0xEF && isTail c)

/-- The second bytes RFC 3629 allows after a four-byte lead. -/
def second4 (b c : Nat) : Bool :=
  (b == 0xF0 && 0x90 ≤ c && c ≤ 0xBF) || (0xF1 ≤ b && b ≤ 0xF3 && isTail c) ||
    (b == 0xF4 && 0x80 ≤ c && c ≤ 0x8F)

/-- U+FFFD, what a lossy decoding puts for an invalid subpart. -/
def replacementChar : Char := Char.ofNat 0xFFFD

/-- `utf8_char_width`: how many bytes a sequence with this lead byte has; `0` for a byte
that cannot lead one. -/
def width (b : Nat) : Nat :=
  if b < 0x80 then 1
  else if 0xC2 ≤ b ∧ b ≤ 0xDF then 2
  else if 0xE0 ≤ b ∧ b ≤ 0xEF then 3
  else if 0xF0 ≤ b ∧ b ≤ 0xF4 then 4
  else 0

/-- Where `Utf8Chunks` stands between bytes: between characters, or after a lead byte and
the bytes of its sequence read so far. -/
inductive DecodeState where
  | start
  | pending (lead : Nat) (seen : List Nat)
  deriving DecidableEq, Repr

/-- Whether `x` may follow the lead byte `b` and the bytes `seen` after it. -/
def accepts (b : Nat) (seen : List Nat) (x : Nat) : Bool :=
  match seen with
  | [] => if width b = 2 then isTail x else if width b = 3 then second3 b x else second4 b x
  | _ :: _ => isTail x

/-- The scalar value of a complete sequence: the lead byte's low bits, then six bits a
byte. -/
def codePoint (b : Nat) (tail : List Nat) : Nat :=
  tail.foldl (fun n x => n * 64 + x % 64)
    (if width b = 2 then b % 32 else if width b = 3 then b % 16 else b % 8)

/-- One byte read between characters. -/
def startByte (b : Nat) : List Char × DecodeState :=
  if b < 0x80 then ([Char.ofNat b], .start)
  else if width b = 0 then ([replacementChar], .start)
  else ([], .pending b [])

/-- One byte read: what it adds to the output, and where reading stands after it. A byte
that cannot go on with the pending sequence ends it as one U+FFFD, and is read again
between characters. -/
def readByte : DecodeState → Nat → List Char × DecodeState
  | .start, x => startByte x
  | .pending b seen, x =>
    if accepts b seen x then
      if seen.length + 2 = width b then ([Char.ofNat (codePoint b (seen ++ [x]))], .start)
      else ([], .pending b (seen ++ [x]))
    else (replacementChar :: (startByte x).1, (startByte x).2)

/-- Decoding from a state; a sequence the input cuts short is one U+FFFD. -/
def decodeFrom : DecodeState → List Nat → List Char
  | .start, [] => []
  | .pending _ _, [] => [replacementChar]
  | st, x :: rest => (readByte st x).1 ++ decodeFrom (readByte st x).2 rest

/-- `String::from_utf8_lossy`. -/
def decodeLossy (bs : List Nat) : List Char :=
  decodeFrom .start bs

/-! ### Decoding what was encoded -/

theorem width_eq_two {b : Nat} (h : 0xC2 ≤ b ∧ b ≤ 0xDF) : width b = 2 := by
  unfold width
  split_ifs <;> omega

theorem width_eq_three {b : Nat} (h : 0xE0 ≤ b ∧ b ≤ 0xEF) : width b = 3 := by
  unfold width
  split_ifs <;> omega

theorem width_eq_four {b : Nat} (h : 0xF0 ≤ b ∧ b ≤ 0xF4) : width b = 4 := by
  unfold width
  split_ifs <;> omega

theorem decodeFrom_one {b : Nat} (hb : b < 0x80) (rest : List Nat) :
    decodeFrom .start (b :: rest) = Char.ofNat b :: decodeFrom .start rest := by
  simp [decodeFrom, readByte, startByte, hb]

theorem decodeFrom_two {b c : Nat} (hb : 0xC2 ≤ b ∧ b ≤ 0xDF) (hc : isTail c = true)
    (rest : List Nat) :
    decodeFrom .start (b :: c :: rest) =
      Char.ofNat (b % 32 * 64 + c % 64) :: decodeFrom .start rest := by
  have hw := width_eq_two hb
  simp [decodeFrom, readByte, startByte, accepts, codePoint, hw, hc,
    show ¬b < 0x80 by omega]

theorem decodeFrom_three {b c d : Nat} (hb : 0xE0 ≤ b ∧ b ≤ 0xEF) (hc : second3 b c = true)
    (hd : isTail d = true) (rest : List Nat) :
    decodeFrom .start (b :: c :: d :: rest) =
      Char.ofNat ((b % 16 * 64 + c % 64) * 64 + d % 64) :: decodeFrom .start rest := by
  have hw := width_eq_three hb
  simp [decodeFrom, readByte, startByte, accepts, codePoint, hw, hc, hd,
    show ¬b < 0x80 by omega]

theorem decodeFrom_four {b c d e : Nat} (hb : 0xF0 ≤ b ∧ b ≤ 0xF4) (hc : second4 b c = true)
    (hd : isTail d = true) (he : isTail e = true) (rest : List Nat) :
    decodeFrom .start (b :: c :: d :: e :: rest) =
      Char.ofNat (((b % 8 * 64 + c % 64) * 64 + d % 64) * 64 + e % 64) ::
        decodeFrom .start rest := by
  have hw := width_eq_four hb
  simp [decodeFrom, readByte, startByte, accepts, codePoint, hw, hc, hd, he,
    show ¬b < 0x80 by omega]

theorem isTail_low {n : Nat} : isTail (0x80 + n % 64) = true := by
  simp only [isTail, Bool.and_eq_true, decide_eq_true_eq]
  omega

/-- Decoding a character's bytes gives the character. -/
theorem decodeFrom_utf8Encode (c : Char) (rest : List Nat) :
    decodeFrom .start (utf8Encode c ++ rest) = c :: decodeFrom .start rest := by
  have hv : c.toNat < 0xD800 ∨ (0xDFFF < c.toNat ∧ c.toNat < 0x110000) := c.valid
  conv_rhs => rw [← Char.ofNat_toNat c]
  unfold utf8Encode
  dsimp only
  split_ifs with h1 h2 h3
  · exact decodeFrom_one h1 rest
  · rw [List.cons_append, List.cons_append, List.nil_append,
      decodeFrom_two (by omega) isTail_low]
    congr 2
    omega
  · rw [List.cons_append, List.cons_append, List.cons_append, List.nil_append,
      decodeFrom_three (by omega) (by simp only [second3, isTail]; simp; omega) isTail_low]
    congr 2
    omega
  · rw [List.cons_append, List.cons_append, List.cons_append, List.cons_append,
      List.nil_append,
      decodeFrom_four (by omega) (by simp only [second4, isTail]; simp; omega) isTail_low
        isTail_low]
    congr 2
    omega

/-- Decoding a string's UTF-8 bytes gives the string back. -/
theorem decodeLossy_bytes (s : String) : decodeLossy (bytes s) = s.data := by
  suffices h : ∀ l : List Char, decodeFrom .start (l.flatMap utf8Encode) = l from h s.data
  intro l
  induction l with
  | nil => rfl
  | cons c l ih => rw [List.flatMap_cons, decodeFrom_utf8Encode, ih]

/-! ## Percent-encoding -/

/-- The bytes `byte_serialize` keeps as they are: ASCII letters and digits, `*`, `-`, `.`
and `_`. -/
def isUnreserved (b : Nat) : Bool :=
  (0x30 ≤ b && b ≤ 0x39) || (0x41 ≤ b && b ≤ 0x5A) || (0x61 ≤ b && b ≤ 0x7A) ||
    b == 0x2A || b == 0x2D || b == 0x2E || b == 0x5F

/-- An uppercase hex digit, as `percent_encode_byte` writes it. -/
def hexDigit (n : Nat) : Nat :=
  if n < 10 then 0x30 + n else 0x41 + n - 10

/-- `byte_serialize` of one byte: `+` for a space, the byte itself when it is unreserved,
else `%` and its two hex digits. -/
def serializeByte (b : Nat) : List Nat :=
  if b = 0x20 then [0x2B]
  else if isUnreserved b then [b]
  else [0x25, hexDigit (b / 16), hexDigit (b % 16)]

/-- `byte_serialize` of a string: the ASCII bytes it writes. -/
def byteSerialize (s : String) : List Nat :=
  (bytes s).flatMap serializeByte

/-- `Serializer::new(String::new())`, then `extend_pairs` and `finish`: each name and
value serialized around `=`, and `&` between pairs. -/
def serialize (pairs : List (String × String)) : String :=
  ⟨([0x26].intercalate (pairs.map fun p => byteSerialize p.1 ++ 0x3D :: byteSerialize p.2)).map
    Char.ofNat⟩

/-- `(b as char).to_digit(16)`. -/
def hexValue (b : Nat) : Option Nat :=
  if 0x30 ≤ b ∧ b ≤ 0x39 then some (b - 0x30)
  else if 0x41 ≤ b ∧ b ≤ 0x46 then some (b - 0x41 + 10)
  else if 0x61 ≤ b ∧ b ≤ 0x66 then some (b - 0x61 + 10)
  else none

/-- `percent_decode`: `%` and two hex digits give the byte they spell; every other byte,
a `%` without two hex digits after it included, is kept. -/
def percentDecode : List Nat → List Nat
  | 0x25 :: h :: l :: rest =>
    match hexValue h, hexValue l with
    | some x, some y => (x * 16 + y) :: percentDecode rest
    | _, _ => 0x25 :: percentDecode (h :: l :: rest)
  | b :: rest => b :: percentDecode rest
  | [] => []

/-- `replace_plus`: `+` read as a space. -/
def replacePlus (b : Nat) : Nat :=
  if b = 0x2B then 0x20 else b

/-- `decode`: `+` read as a space, percent-decoding, then `from_utf8_lossy`. -/
def decode (input : List Nat) : String :=
  ⟨decodeLossy (percentDecode (input.map replacePlus))⟩

/-- One `&`-separated sequence: the name before its first `=`, and the value after it, or
an empty value when it has none. -/
def splitPair (sequence : List Nat) : String × String :=
  (decode (sequence.takeWhile (· != 0x3D)), decode ((sequence.dropWhile (· != 0x3D)).drop 1))

/-- `form_urlencoded::parse(input.as_bytes())`: the pairs of the `&`-separated sequences
but the empty ones. -/
def parse (input : String) : List (String × String) :=
  (((bytes input).splitOn 0x26).filter (!·.isEmpty)).map splitPair

/-! ## The round trip -/

theorem utf8Encode_lt (c : Char) : ∀ b ∈ utf8Encode c, b < 256 := by
  have hv : c.toNat < 0xD800 ∨ (0xDFFF < c.toNat ∧ c.toNat < 0x110000) := c.valid
  unfold utf8Encode
  dsimp only
  split_ifs <;> simp <;> omega

theorem bytes_lt (s : String) : ∀ b ∈ bytes s, b < 256 := by
  simp only [bytes, List.mem_flatMap]
  rintro b ⟨c, -, hb⟩
  exact utf8Encode_lt c b hb

theorem hexValue_hexDigit {n : Nat} (h : n < 16) : hexValue (hexDigit n) = some n := by
  unfold hexValue hexDigit
  split_ifs <;> (try simp only [Option.some.injEq]) <;> omega

/-- The bytes the serializer writes: the unreserved ones, `%`, `+`, `&` and `=`. -/
def isSerialized (b : Nat) : Bool :=
  isUnreserved b || b == 0x25 || b == 0x2B || b == 0x26 || b == 0x3D

theorem isSerialized_lt {b : Nat} (h : isSerialized b = true) : b < 0x80 := by
  simp only [isSerialized, isUnreserved, Bool.or_eq_true, Bool.and_eq_true, decide_eq_true_eq,
    beq_iff_eq] at h
  omega

/-- What the serializer writes for a byte is neither `&` nor `=`. -/
theorem serializeByte_isSerialized {b x : Nat} (hb : b < 256) (hx : x ∈ serializeByte b) :
    isSerialized x = true ∧ x ≠ 0x26 ∧ x ≠ 0x3D := by
  simp only [isSerialized, isUnreserved, Bool.or_eq_true, Bool.and_eq_true, decide_eq_true_eq,
    beq_iff_eq]
  unfold serializeByte at hx
  split_ifs at hx with h1 h2
  · simp only [List.mem_singleton] at hx
    omega
  · simp only [List.mem_singleton] at hx
    subst hx
    simp only [isUnreserved, Bool.or_eq_true, Bool.and_eq_true, decide_eq_true_eq,
      beq_iff_eq] at h2
    omega
  · simp only [List.mem_cons, List.mem_singleton, List.not_mem_nil, or_false] at hx
    unfold hexDigit at hx
    split_ifs at hx <;> omega

theorem byteSerialize_isSerialized (s : String) :
    ∀ x ∈ byteSerialize s, isSerialized x = true ∧ x ≠ 0x26 ∧ x ≠ 0x3D := by
  simp only [byteSerialize, List.mem_flatMap]
  rintro x ⟨b, hb, hx⟩
  exact serializeByte_isSerialized (bytes_lt s b hb) hx

theorem percentDecode_cons {b : Nat} (h : b ≠ 0x25) (rest : List Nat) :
    percentDecode (b :: rest) = b :: percentDecode rest := by
  rcases rest with _ | ⟨x, _ | ⟨y, rest⟩⟩ <;> simp [percentDecode, h]

/-- Percent-decoding what the serializer wrote for a byte, `+` read as a space, gives the
byte back. -/
theorem percentDecode_serializeByte {b : Nat} (hb : b < 256) (rest : List Nat) :
    percentDecode ((serializeByte b).map replacePlus ++ rest) = b :: percentDecode rest := by
  unfold serializeByte
  split_ifs with h1 h2
  · subst h1
    simp [replacePlus, percentDecode_cons]
  · have hu : b ≠ 0x2B ∧ b ≠ 0x25 := by
      simp only [isUnreserved, Bool.or_eq_true, Bool.and_eq_true, decide_eq_true_eq,
        beq_iff_eq] at h2
      omega
    simp [replacePlus, hu.1, percentDecode_cons hu.2]
  · have hd : ∀ n, n < 16 → replacePlus (hexDigit n) = hexDigit n := fun n hn => by
      unfold replacePlus hexDigit
      split_ifs <;> omega
    have hhi : b / 16 < 16 := by omega
    have hlo : b % 16 < 16 := by omega
    rw [List.map_cons, List.map_cons, List.map_cons, List.map_nil, hd _ hhi, hd _ hlo,
      show replacePlus 0x25 = 0x25 from rfl, List.cons_append, List.cons_append,
      List.cons_append, List.nil_append, percentDecode]
    simp only [hexValue_hexDigit hhi, hexValue_hexDigit hlo, Nat.div_add_mod' b 16]

theorem percentDecode_serialize :
    ∀ (bs : List Nat), (∀ b ∈ bs, b < 256) → ∀ rest : List Nat,
      percentDecode ((bs.flatMap serializeByte).map replacePlus ++ rest) = bs ++ percentDecode rest
  | [], _, _ => rfl
  | b :: bs, h, rest => by
    rw [List.flatMap_cons, List.map_append, List.append_assoc,
      percentDecode_serializeByte (h b (.head _)),
      percentDecode_serialize bs (fun x hx => h x (.tail _ hx)), List.cons_append]

/-- Decoding what `byte_serialize` wrote gives the string back. -/
theorem decode_byteSerialize (s : String) : decode (byteSerialize s) = s := by
  have h : percentDecode (((bytes s).flatMap serializeByte).map replacePlus) = bytes s := by
    simpa [percentDecode] using percentDecode_serialize (bytes s) (bytes_lt s) []
  simp only [decode, byteSerialize, h, decodeLossy_bytes]

/-- A pair as the serializer writes it splits back into its name and value. -/
theorem splitPair_serialized (p : String × String) :
    splitPair (byteSerialize p.1 ++ 0x3D :: byteSerialize p.2) = p := by
  have hn : ∀ x ∈ byteSerialize p.1, (x != 0x3D) = true := fun x hx => by
    simpa using (byteSerialize_isSerialized p.1 x hx).2.2
  simp [splitPair, List.takeWhile_append_of_pos hn, List.dropWhile_append_of_pos hn,
    decode_byteSerialize]

theorem toNat_ofNat_ascii {b : Nat} (hb : b < 0x80) : (Char.ofNat b).toNat = b := by
  rw [Char.ofNat, dif_pos (Or.inl (by omega))]
  rfl

/-- The bytes of a string of ASCII characters are their codes. -/
theorem bytes_ascii : ∀ l : List Nat, (∀ b ∈ l, b < 0x80) → bytes ⟨l.map Char.ofNat⟩ = l
  | [], _ => rfl
  | b :: l, h => by
    have hb := h b (.head _)
    have ih := bytes_ascii l fun x hx => h x (.tail _ hx)
    simp only [bytes, List.map_cons, List.flatMap_cons] at ih ⊢
    rw [ih]
    simp [utf8Encode, toNat_ofNat_ascii hb, hb]

theorem forall_mem_intercalate {p : Nat → Prop} {sep : List Nat} (hsep : ∀ x ∈ sep, p x) :
    ∀ {ls : List (List Nat)}, (∀ l ∈ ls, ∀ x ∈ l, p x) → ∀ x ∈ sep.intercalate ls, p x
  | [], _ => by simp [List.intercalate]
  | [l], h => by simpa [List.intercalate] using h l (.head _)
  | l :: l' :: ls, h => by
    have hcons : sep.intercalate (l :: l' :: ls) = l ++ (sep ++ sep.intercalate (l' :: ls)) := rfl
    intro x hx
    rw [hcons, List.mem_append, List.mem_append] at hx
    rcases hx with hx | hx | hx
    · exact h l (.head _) x hx
    · exact hsep x hx
    · exact forall_mem_intercalate hsep (fun l hl => h l (.tail _ hl)) x hx

theorem isSerialized_of_mem_pair {p : String × String} {x : Nat}
    (hx : x ∈ byteSerialize p.1 ++ 0x3D :: byteSerialize p.2) :
    isSerialized x = true ∧ x ≠ 0x26 := by
  simp only [List.mem_append, List.mem_cons] at hx
  rcases hx with hx | rfl | hx
  · exact ⟨(byteSerialize_isSerialized _ x hx).1, (byteSerialize_isSerialized _ x hx).2.1⟩
  · decide
  · exact ⟨(byteSerialize_isSerialized _ x hx).1, (byteSerialize_isSerialized _ x hx).2.1⟩

theorem isSerialized_intercalate (pairs : List (String × String)) :
    ∀ x ∈ [0x26].intercalate (pairs.map fun p => byteSerialize p.1 ++ 0x3D :: byteSerialize p.2),
      isSerialized x = true :=
  forall_mem_intercalate (by decide) fun l hl x hx => by
    obtain ⟨p, -, rfl⟩ := List.mem_map.1 hl
    exact (isSerialized_of_mem_pair hx).1

/-- The serializer writes only bytes of `isSerialized`. -/
theorem serialize_isSerialized (pairs : List (String × String)) :
    ∀ c ∈ (serialize pairs).data, isSerialized c.toNat = true := by
  intro c hc
  obtain ⟨x, hx, rfl⟩ := List.mem_map.1 hc
  have h := isSerialized_intercalate pairs x hx
  rwa [toNat_ofNat_ascii (isSerialized_lt h)]

/-- Parsing what the serializer wrote gives back every pair, in its place. -/
theorem parse_serialize (pairs : List (String × String)) : parse (serialize pairs) = pairs := by
  rcases eq_or_ne pairs [] with rfl | hp
  · rfl
  have hamp : ∀ l ∈ pairs.map fun p => byteSerialize p.1 ++ 0x3D :: byteSerialize p.2,
      0x26 ∉ l := fun l hl hx => by
    obtain ⟨p, -, rfl⟩ := List.mem_map.1 hl
    exact (isSerialized_of_mem_pair hx).2 rfl
  have hfull : ∀ l ∈ pairs.map fun p => byteSerialize p.1 ++ 0x3D :: byteSerialize p.2,
      (!l.isEmpty) = true := fun l hl => by
    obtain ⟨p, -, rfl⟩ := List.mem_map.1 hl
    simp
  simp only [parse, serialize]
  rw [bytes_ascii _ fun x hx => isSerialized_lt (isSerialized_intercalate pairs x hx),
    List.splitOn_intercalate _ 0x26 hamp (by simpa using hp), List.filter_eq_self.2 hfull,
    List.map_map]
  simp only [Function.comp_def, splitPair_serialized, List.map_id']

end FormUrlencoded

end BookmarkSync
