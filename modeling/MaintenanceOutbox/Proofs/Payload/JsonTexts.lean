import MaintenanceOutbox.Proofs.Payload.NumberTexts
import Mathlib.Data.List.Basic
import Mathlib.Data.List.Induction
import Mathlib.Data.String.Basic

set_option autoImplicit false

/-! # Values survive being written as texts

What `Json.toText` writes is read by `Json.parse?` as it was, but for the numbers in it
(`Json.parse?_toText`): an integer has 64 bits and comes back, and a floating-point number is what
the decimal is read as that is shown for it (`Binary64.reread?`). So a value comes back if all its
floating-point numbers do, and only then (`Json.reread?_eq_self_iff`); numbers with short texts do.

A part of a text is read in the same way wherever it stands, since what follows it there is a comma
or a closing bracket, or nothing.
-/

namespace MaintenanceOutbox

namespace Json

/-! ## Strings -/

theorem hexValue?_hexDigit : ∀ n < 16, hexValue? (hexDigit n) = some n := by decide

theorem unicodeEscape?_hexDigit {n : Nat} (control : n < 0x20) (rest : List Char) :
    unicodeEscape? ('0' :: '0' :: hexDigit (n / 16) :: hexDigit (n % 16) :: rest) =
      some (Char.ofNat n, rest) := by
  have four : hexFour? ('0' :: '0' :: hexDigit (n / 16) :: hexDigit (n % 16) :: rest) =
      some (n, rest) := by
    have whole : ((0 * 16 + 0) * 16 + n / 16) * 16 + n % 16 = n := by omega
    calc _ = some (((0 * 16 + 0) * 16 + n / 16) * 16 + n % 16, rest) := by
          rw [hexFour?, hexValue?_hexDigit _ (by omega : n / 16 < 16),
            hexValue?_hexDigit _ (by omega : n % 16 < 16)]
          rfl
      _ = _ := by rw [whole]
  rw [unicodeEscape?, four, Option.bind_eq_bind, Option.bind_some]
  dsimp only
  rw [if_neg (by simp; omega), if_neg (by simp; omega)]
  rfl

theorem stringBody?_plain {c : Char} (quote : c ≠ '"') (backslash : c ≠ '\\')
    (visible : ¬ c.toNat < 0x20) (fuel : Nat) (read rest : List Char) :
    stringBody? (fuel + 1) read (c :: rest) = stringBody? fuel (c :: read) rest := by
  simp [stringBody?, backslash, visible]

/-- A character is read as it was written. -/
theorem stringBody?_escapeChar (c : Char) (fuel : Nat) (read rest : List Char) :
    stringBody? (fuel + 1) read (escapeChar c ++ rest) = stringBody? fuel (c :: read) rest := by
  unfold escapeChar
  split
  · next h => subst h; rfl
  split
  · next h => subst h; rfl
  split
  · next h => subst h; rfl
  split
  · next h => subst h; rfl
  split
  · next h => subst h; rfl
  split
  · next control =>
      simp only [List.cons_append, List.nil_append]
      rw [stringBody?, unicodeEscape?_hexDigit control, Char.ofNat_toNat]
      rfl
  · next visible => exact stringBody?_plain ‹_› ‹_› visible fuel read rest

theorem escapeChar_ne_nil (c : Char) : escapeChar c ≠ [] := by
  unfold escapeChar
  split_ifs <;> exact List.cons_ne_nil _ _

theorem stringBody?_flatMap {cs : List Char} : ∀ {fuel : Nat} {read rest : List Char},
    (cs.flatMap escapeChar).length < fuel →
      stringBody? fuel read (cs.flatMap escapeChar ++ '"' :: rest) =
        some (String.ofList (read.reverse ++ cs), rest) := by
  induction cs with
  | nil =>
      intro fuel read rest enough
      obtain ⟨fuel, rfl⟩ := Nat.exists_eq_add_one_of_ne_zero (Nat.ne_zero_of_lt enough)
      rw [List.append_nil]
      rfl
  | cons c cs ih =>
      intro fuel read rest enough
      obtain ⟨fuel, rfl⟩ := Nat.exists_eq_add_one_of_ne_zero (Nat.ne_zero_of_lt enough)
      have some : 0 < (escapeChar c).length := List.length_pos_of_ne_nil (escapeChar_ne_nil c)
      rw [List.flatMap_cons, List.length_append] at enough
      rw [List.flatMap_cons, List.append_assoc, stringBody?_escapeChar, ih (by omega),
        List.reverse_cons, List.append_assoc, List.singleton_append]

/-- **A string is read as it was written**, the first quotation mark being read already. -/
theorem stringText_eq (s : String) (tail : List Char) :
    ∃ body, (stringText s).toList ++ tail = '"' :: body ∧
      stringBody? (body.length + 1) [] body = some (s, tail) := by
  refine ⟨s.toList.flatMap escapeChar ++ '"' :: tail, ?_, ?_⟩
  · rw [stringText, String.toList_ofList]
    simp
  · rw [stringBody?_flatMap (by rw [List.length_append, List.length_cons]; omega),
      List.reverse_nil, List.nil_append, String.ofList_toList]

/-! ## Values -/

variable {cs tail rest : List Char} {v : Json} {fuel : Nat}

theorem skipBlanks_digit {c : Char} (digit : c.isDigit = true) :
    skipBlanks (c :: cs) = c :: cs := by
  rw [skipBlanks, List.dropWhile_cons_of_neg]
  intro blank
  simp only [Bool.or_eq_true, decide_eq_true_eq] at blank
  rcases blank with ((rfl | rfl) | rfl) | rfl <;> exact absurd digit (by decide)

theorem value?_digit {c : Char} (digit : c.isDigit = true) :
    value? (fuel + 1) (c :: cs) = number? false (c :: cs) := by
  rw [value?.eq_def]
  dsimp only
  rw [skipBlanks_digit digit]
  split
  all_goals first
    | rfl
    | next found => cases found; exact absurd digit (by decide)

theorem value?_minus : value? (fuel + 1) ('-' :: cs) = number? true cs := rfl

theorem value?_str (s : String) (tail : List Char) :
    value? (fuel + 1) ((stringText s).toList ++ tail) = some (.str s, tail) := by
  obtain ⟨body, whole, read⟩ := stringText_eq s tail
  rw [whole]
  show (stringBody? (body.length + 1) [] body).bind (fun p => some (Json.str p.1, p.2)) = _
  rw [read]
  rfl

/-! ## What a value is read as -/

mutual

/-- **What the text of a value is read as**: the same, but for floating-point numbers. -/
def reread? : Json → Option Json
  | .null => some .null
  | .bool b => some (.bool b)
  | .int n => some (.int n)
  | .float x => x.reread?.map .float
  | .str s => some (.str s)
  | .arr items => (rereadItems? items).map .arr
  | .obj members => (rereadMembers? members).map .obj

/-- The items of an array. -/
def rereadItems? : List Json → Option (List Json)
  | [] => some []
  | v :: rest => (reread? v).bind fun w => (rereadItems? rest).map (w :: ·)

/-- The members of an object. -/
def rereadMembers? : List (String × Json) → Option (List (String × Json))
  | [] => some []
  | (k, v) :: rest => (reread? v).bind fun w => (rereadMembers? rest).map ((k, w) :: ·)

end

mutual

/-- The floating-point numbers in a value. -/
def floats : Json → List Binary64
  | .null => []
  | .bool _ => []
  | .int _ => []
  | .float x => [x]
  | .str _ => []
  | .arr items => itemFloats items
  | .obj members => memberFloats members

/-- Those in the items of an array. -/
def itemFloats : List Json → List Binary64
  | [] => []
  | v :: rest => floats v ++ itemFloats rest

/-- Those in the members of an object. -/
def memberFloats : List (String × Json) → List Binary64
  | [] => []
  | (_, v) :: rest => floats v ++ memberFloats rest

end

mutual

/-- **A value comes back exactly if its floating-point numbers do.** -/
theorem reread?_eq_self_iff : (v : Json) →
    (v.reread? = some v ↔ ∀ x ∈ v.floats, x.reread? = some x)
  | .null => by simp [reread?, floats]
  | .bool _ => by simp [reread?, floats]
  | .int _ => by simp [reread?, floats]
  | .float x => by simp [reread?, floats]
  | .str _ => by simp [reread?, floats]
  | .arr items => by simp [reread?, floats, rereadItems?_eq_self_iff items]
  | .obj members => by simp [reread?, floats, rereadMembers?_eq_self_iff members]

theorem rereadItems?_eq_self_iff : (items : List Json) →
    (rereadItems? items = some items ↔ ∀ x ∈ itemFloats items, x.reread? = some x)
  | [] => by simp [rereadItems?, itemFloats]
  | v :: rest => by
      simp [rereadItems?, itemFloats, Option.bind_eq_some_iff, or_imp, forall_and,
        reread?_eq_self_iff v, rereadItems?_eq_self_iff rest]

theorem rereadMembers?_eq_self_iff : (members : List (String × Json)) →
    (rereadMembers? members = some members ↔ ∀ x ∈ memberFloats members, x.reread? = some x)
  | [] => by simp [rereadMembers?, memberFloats]
  | (k, v) :: rest => by
      simp [rereadMembers?, memberFloats, Option.bind_eq_some_iff, or_imp, forall_and,
        reread?_eq_self_iff v, rereadMembers?_eq_self_iff rest]

end

theorem keys_rereadMembers? {ms ms' : List (String × Json)} (read : rereadMembers? ms = some ms') :
    ms'.map Prod.fst = ms.map Prod.fst := by
  induction ms generalizing ms' with
  | nil => cases read; rfl
  | cons m ms ih =>
      obtain ⟨k, v⟩ := m
      obtain ⟨w, -, read⟩ := Option.bind_eq_some_iff.mp read
      obtain ⟨rest, later, rfl⟩ := Option.map_eq_some_iff.mp read
      rw [List.map_cons, List.map_cons, ih later]

/-! ## Values within values -/

/-- A value may begin here. -/
def Opens (cs : List Char) : Prop :=
  ∃ c rest, cs = c :: rest ∧ (c.isDigit = true ∨ c ∈ ['n', 't', 'f', '-', '"', '[', '\x7b'])

theorem Opens.append (opens : Opens cs) (tail : List Char) : Opens (cs ++ tail) := by
  obtain ⟨c, rest, rfl, first⟩ := opens
  exact ⟨c, rest ++ tail, rfl, first⟩

/-- Neither a blank nor a closing bracket is next. -/
theorem Opens.skipBlanks (opens : Opens cs) :
    Json.skipBlanks cs = cs ∧ ∀ rest, cs ≠ ']' :: rest ∧ cs ≠ '\x7d' :: rest := by
  obtain ⟨c, rest, rfl, digit | mark⟩ := opens
  · refine ⟨skipBlanks_digit digit, fun rest => ⟨?_, ?_⟩⟩
    · rintro ⟨⟩
      exact absurd digit (by decide)
    · rintro ⟨⟩
      exact absurd digit (by decide)
  · simp only [List.mem_cons, List.not_mem_nil, or_false] at mark
    rcases mark with rfl | rfl | rfl | rfl | rfl | rfl | rfl <;>
      exact ⟨rfl, fun rest => ⟨by simp, by simp⟩⟩

theorem value?_arr (opens : Opens cs) : value? (fuel + 1) ('[' :: cs) =
    (items? fuel cs).map fun p => (.arr p.1, p.2) := by
  obtain ⟨same, other⟩ := opens.skipBlanks
  have bracket : skipBlanks ('[' :: cs) = '[' :: cs := rfl
  rw [value?.eq_def]
  simp only [bracket, same]
  split
  · exact absurd rfl (other _).1
  · cases items? fuel cs <;> rfl

theorem value?_obj (opens : Opens cs) : value? (fuel + 1) ('\x7b' :: cs) =
    (members? fuel cs).map fun p => (object p.1, p.2) := by
  obtain ⟨same, other⟩ := opens.skipBlanks
  have brace : skipBlanks ('\x7b' :: cs) = '\x7b' :: cs := rfl
  rw [value?.eq_def]
  simp only [brace, same]
  split
  · exact absurd rfl (other _).2
  · cases members? fuel cs <;> rfl

/-- **A value is read from its text**, whatever may stand behind a value. -/
structure Reads (v : Json) : Prop where
  opens : Opens v.toText.toList
  read : ∀ {fuel : Nat} {tail : List Char}, 2 * v.toText.toList.length ≤ fuel → Ends tail →
    value? (fuel + 1) (v.toText.toList ++ tail) = v.reread?.map fun w => (w, tail)

/-- Texts with commas between them. -/
def joined (texts : List String) : List Char :=
  [','].intercalate (texts.map String.toList)

theorem toList_intercalate (texts : List String) :
    (",".intercalate texts).toList = joined texts :=
  String.toList_intercalate

theorem joined_singleton (text : String) : joined [text] = text.toList :=
  List.intercalate_singleton

theorem joined_cons_cons (text next : String) (texts : List String) :
    joined (text :: next :: texts) = text.toList ++ ',' :: joined (next :: texts) := by
  rw [joined, List.map_cons, List.map_cons, List.intercalate_cons_cons, List.append_assoc]
  rfl

theorem opens_joined {text : String} {texts : List String} (opens : Opens text.toList) :
    Opens (joined (text :: texts)) := by
  cases texts with
  | nil => rwa [joined_singleton]
  | cons next texts =>
      rw [joined_cons_cons]
      exact opens.append _

theorem items?_joined {items : List Json} (reads : ∀ v ∈ items, Reads v) (nonempty : items ≠ [])
    (tail : List Char) : ∀ {fuel : Nat}, 2 * (joined (itemTexts items)).length ≤ fuel →
      items? (fuel + 2) (joined (itemTexts items) ++ ']' :: tail) =
        (rereadItems? items).map fun vs => (vs, tail) := by
  -- the last item ends before the bracket, the others before a comma
  induction items with
  | nil => exact absurd rfl nonempty
  | cons v items ih =>
      intro fuel enough
      have first : Reads v := reads v List.mem_cons_self
      cases items with
      | nil =>
          rw [itemTexts, itemTexts, joined_singleton] at enough ⊢
          rw [items?, first.read enough (.bracket tail), rereadItems?, rereadItems?]
          cases v.reread? <;> rfl
      | cons w items =>
          rw [itemTexts, itemTexts, joined_cons_cons, ← itemTexts] at enough ⊢
          rw [List.length_append, List.length_cons] at enough
          obtain ⟨fuel, rfl⟩ : ∃ less, fuel = less + 1 := ⟨fuel - 1, by omega⟩
          have later := ih (fun v hv => reads v (List.mem_cons_of_mem _ hv)) (List.cons_ne_nil _ _)
            (by omega : _ ≤ fuel)
          rw [List.append_assoc, List.cons_append, items?, first.read (by omega) (.comma _),
            rereadItems?]
          cases v.reread? with
          | none => rfl
          | some v' =>
              show (items? (fuel + 2) _).bind (fun p => some (v' :: p.1, p.2)) = _
              rw [later]
              cases rereadItems? (w :: items) <;> rfl

/-- A member is read; what follows it is the end of the object, or more members. -/
theorem members?_member {k : String} {v : Json} {later : Option (List (String × Json))}
    (reads : Reads v) (enough : 2 * v.toText.toList.length ≤ fuel)
    (next : rest = '\x7d' :: tail ∧ later = some [] ∨ ∃ more, rest = ',' :: more ∧
      members? (fuel + 1) more = later.map fun ms => (ms, tail)) :
    members? (fuel + 2) ((stringText k ++ ":" ++ v.toText).toList ++ rest) =
      (v.reread?.bind fun w => later.map ((k, w) :: ·)).map fun ms => (ms, tail) := by
  obtain ⟨body, whole, read⟩ := stringText_eq k (':' :: (v.toText.toList ++ rest))
  have text : (stringText k ++ ":" ++ v.toText).toList ++ rest = '"' :: body := by
    rw [← whole, String.toList_append, String.toList_append, List.append_assoc, List.append_assoc]
    rfl
  -- there are no blanks between the parts
  have quote : skipBlanks ('"' :: body) = '"' :: body := rfl
  have colon (cs : List Char) : skipBlanks (':' :: cs) = ':' :: cs := rfl
  have ends : Ends rest := by
    rcases next with ⟨rfl, -⟩ | ⟨more, rfl, -⟩
    · exact .brace tail
    · exact .comma more
  rw [text, members?.eq_def]
  simp only [quote, read, colon, reads.read enough ends, Option.bind_eq_bind, Option.bind_some]
  cases v.reread? with
  | none => rfl
  | some w =>
      rcases next with ⟨rfl, rfl⟩ | ⟨more, rfl, members⟩
      · rfl
      · show (members? (fuel + 1) more).bind (fun p => some ((k, w) :: p.1, p.2)) = _
        rw [members]
        cases later <;> rfl

theorem members?_joined {ms : List (String × Json)} (reads : ∀ m ∈ ms, Reads m.2)
    (nonempty : ms ≠ []) (tail : List Char) :
    ∀ {fuel : Nat}, 2 * (joined (memberTexts ms)).length ≤ fuel →
      members? (fuel + 2) (joined (memberTexts ms) ++ '\x7d' :: tail) =
        (rereadMembers? ms).map fun ms' => (ms', tail) := by
  induction ms with
  | nil => exact absurd rfl nonempty
  | cons m ms ih =>
      obtain ⟨k, v⟩ := m
      intro fuel enough
      have first : Reads v := reads (k, v) List.mem_cons_self
      cases ms with
      | nil =>
          rw [memberTexts, memberTexts, joined_singleton] at enough ⊢
          simp only [String.toList_append, List.length_append] at enough
          exact members?_member first (by omega) (.inl ⟨rfl, rfl⟩)
      | cons m ms =>
          obtain ⟨l, w⟩ := m
          rw [memberTexts, memberTexts, joined_cons_cons, ← memberTexts] at enough ⊢
          simp only [String.toList_append, List.length_append, List.length_cons] at enough
          obtain ⟨fuel, rfl⟩ : ∃ less, fuel = less + 1 := ⟨fuel - 1, by omega⟩
          have later := ih (fun m hm => reads m (List.mem_cons_of_mem _ hm)) (List.cons_ne_nil _ _)
            (by omega : _ ≤ fuel)
          rw [List.append_assoc, List.cons_append]
          exact members?_member first (by omega) (.inr ⟨_, rfl, later⟩)

/-! ## Objects -/

/-- A member whose key is greater than the others goes behind them. -/
theorem insertMember_eq_append {ms : List (String × Json)} {key : String} {value : Json}
    (greatest : ∀ m ∈ ms, m.1 < key) : insertMember key value ms = ms ++ [(key, value)] := by
  induction ms with
  | nil => rfl
  | cons m ms ih =>
      obtain ⟨less, greatest⟩ := List.forall_mem_cons.mp greatest
      rw [insertMember, if_neg (lt_asymm less), if_neg (ne_of_gt less), ih greatest]
      rfl

/-- Members that are ordered stay as they are. -/
theorem object_eq {ms : List (String × Json)} (sorted : ms.Pairwise (·.1 < ·.1)) :
    object ms = .obj ms := by
  rw [object]
  congr 1
  induction ms using List.reverseRecOn with
  | nil => rfl
  | append_singleton ms m ih =>
      obtain ⟨before, -, greatest⟩ := List.pairwise_append.mp sorted
      rw [List.foldl_append, ih before, List.foldl_cons, List.foldl_nil]
      exact insertMember_eq_append fun n hn => greatest n hn m List.mem_cons_self

/-! ## Whole texts -/

/-- **What a value can be**: an integer has 64 bits, the members of an object are ordered by key,
and a floating-point number has its one form. -/
inductive Proper : Json → Prop where
  | null : Proper .null
  | bool (b : Bool) : Proper (.bool b)
  | int {n : Int} (low : -0x8000000000000000 ≤ n) (high : n < 0x10000000000000000) : Proper (.int n)
  | float {x : Binary64} (canonical : x.Canonical) : Proper (.float x)
  | str (s : String) : Proper (.str s)
  | arr {items : List Json} (all : ∀ v ∈ items, Proper v) : Proper (.arr items)
  | obj {ms : List (String × Json)} (sorted : ms.Pairwise (·.1 < ·.1))
      (all : ∀ m ∈ ms, Proper m.2) : Proper (.obj ms)

theorem exists_item {x : Binary64} {items : List Json} (mem : x ∈ itemFloats items) :
    ∃ v ∈ items, x ∈ v.floats := by
  induction items with
  | nil => cases mem
  | cons v items ih =>
      rcases List.mem_append.mp mem with here | later
      · exact ⟨v, List.mem_cons_self, here⟩
      · obtain ⟨w, hw, found⟩ := ih later
        exact ⟨w, List.mem_cons_of_mem _ hw, found⟩

theorem exists_member {x : Binary64} {ms : List (String × Json)} (mem : x ∈ memberFloats ms) :
    ∃ m ∈ ms, x ∈ m.2.floats := by
  induction ms with
  | nil => cases mem
  | cons m ms ih =>
      rcases List.mem_append.mp mem with here | later
      · exact ⟨m, List.mem_cons_self, here⟩
      · obtain ⟨n, hn, found⟩ := ih later
        exact ⟨n, List.mem_cons_of_mem _ hn, found⟩

theorem Proper.canonical {v : Json} (proper : Proper v) : ∀ x ∈ v.floats, x.Canonical := by
  induction proper with
  | null | bool | int | str => exact fun x hx => nomatch hx
  | float canonical =>
      intro x hx
      rw [List.mem_singleton.mp hx]
      exact canonical
  | arr _ ih =>
      intro x hx
      obtain ⟨v, hv, found⟩ := exists_item hx
      exact ih v hv x found
  | obj _ _ ih =>
      intro x hx
      obtain ⟨m, hm, found⟩ := exists_member hx
      exact ih m hm x found

theorem opens_of_digit {c : Char} (digit : c.isDigit = true) : Opens (c :: cs) :=
  ⟨c, cs, rfl, .inl digit⟩

theorem opens_of_mark {c : Char} (mark : c ∈ ['n', 't', 'f', '-', '"', '[', '\x7b']) :
    Opens (c :: cs) :=
  ⟨c, cs, rfl, .inr mark⟩

theorem value?_of_digit {c : Char} (begins : cs.head? = some c) (digit : c.isDigit = true) :
    value? (fuel + 1) cs = number? false cs := by
  obtain ⟨rest, rfl⟩ := List.head?_eq_some_iff.mp begins
  exact value?_digit digit

theorem reads_int {n : Int} (low : -0x8000000000000000 ≤ n) (high : n < 0x10000000000000000) :
    Reads (.int n) := by
  have size : UInt64.size = 0x10000000000000000 := rfl
  cases n with
  | ofNat n =>
      have text : (Json.int (.ofNat n)).toText.toList = Nat.toDigits 10 n := Nat.toList_repr
      have small : (n : Int) < 0x10000000000000000 := high
      have fits : word? false n = some (n : Int) := by
        rw [word?, if_neg (by decide), if_pos (by omega)]
      obtain ⟨c, cs, eq⟩ := List.exists_cons_of_ne_nil (Nat.toDigits_ne_nil (b := 10) (n := n))
      have digit : c.isDigit = true := digits_toDigits n c (eq ▸ List.mem_cons_self)
      refine ⟨?_, fun _ ends => ?_⟩
      · rw [text, eq]
        exact opens_of_digit digit
      · rw [text]
        exact (value?_of_digit (by rw [eq]; rfl) digit).trans (number?_toDigits fits ends)
  | negSucc n =>
      have text : (Json.int (.negSucc n)).toText.toList = '-' :: Nat.toDigits 10 (n + 1) := by
        show ("-" ++ Nat.repr (n + 1)).toList = _
        rw [String.toList_append, Nat.toList_repr]
        rfl
      have fits : word? true (n + 1) = some (.negSucc n) := by
        rw [word?, if_pos rfl, if_pos (by omega)]
        rfl
      refine ⟨?_, fun _ ends => ?_⟩
      · rw [text]
        exact opens_of_mark (by decide)
      · rw [text]
        exact value?_minus.trans (number?_toDigits fits ends)

theorem reads_float {x : Binary64} (canonical : x.Canonical) : Reads (.float x) := by
  have text : (Json.float x).toText.toList =
      if x.negative then '-' :: x.magnitudeText else x.magnitudeText := x.toList_toText
  have whole : (Json.float x).reread? = x.reread?.map .float := rfl
  obtain ⟨c, cs, eq, digit⟩ := x.magnitudeText_cons canonical
  cases sign : x.negative with
  | true =>
      rw [sign, if_pos rfl] at text
      refine ⟨?_, fun _ ends => ?_⟩
      · rw [text]
        exact opens_of_mark (by decide)
      · have read := Binary64.number?_magnitudeText canonical ends
        rw [text, whole, Option.map_map]
        rw [sign] at read
        exact value?_minus.trans read
  | false =>
      rw [sign, if_neg Bool.false_ne_true] at text
      refine ⟨?_, fun _ ends => ?_⟩
      · rw [text, eq]
        exact opens_of_digit digit
      · have read := Binary64.number?_magnitudeText canonical ends
        rw [text, whole, Option.map_map]
        rw [sign] at read
        exact (value?_of_digit (by rw [eq]; rfl) digit).trans read

theorem reads_str (s : String) : Reads (.str s) where
  opens := by
    obtain ⟨body, text, -⟩ := stringText_eq s []
    rw [List.append_nil] at text
    rw [toText, text]
    exact opens_of_mark (by decide)
  read _ _ := value?_str s _

theorem reads_arr {items : List Json} (all : ∀ v ∈ items, Reads v) : Reads (.arr items) := by
  have text : (Json.arr items).toText.toList = '[' :: joined (itemTexts items) ++ [']'] := by
    rw [toText, String.toList_append, String.toList_append, toList_intercalate]
    rfl
  refine ⟨?_, fun {fuel tail} enough _ => ?_⟩
  · rw [text]
    exact opens_of_mark (by decide)
  · rw [text] at enough ⊢
    rw [List.append_assoc, List.cons_append]
    cases items with
    | nil => rfl
    | cons v items =>
        simp only [List.length_append, List.length_cons] at enough
        obtain ⟨fuel, rfl⟩ : ∃ less, fuel = less + 2 := ⟨fuel - 2, by omega⟩
        have opens : Opens (joined (itemTexts (v :: items))) :=
          opens_joined (all v List.mem_cons_self).opens
        have read := items?_joined all (List.cons_ne_nil _ _) tail (by omega : _ ≤ fuel)
        refine (value?_arr (opens.append _)).trans ?_
        rw [List.singleton_append, read, reread?]
        cases rereadItems? (v :: items) <;> rfl

theorem reads_obj {ms : List (String × Json)} (sorted : ms.Pairwise (·.1 < ·.1))
    (all : ∀ m ∈ ms, Reads m.2) : Reads (.obj ms) := by
  have text : (Json.obj ms).toText.toList = '\x7b' :: joined (memberTexts ms) ++ ['\x7d'] := by
    rw [toText, String.toList_append, String.toList_append, toList_intercalate]
    rfl
  refine ⟨?_, fun {fuel tail} enough _ => ?_⟩
  · rw [text]
    exact opens_of_mark (by decide)
  · rw [text] at enough ⊢
    rw [List.append_assoc, List.cons_append]
    cases ms with
    | nil => rfl
    | cons m ms =>
        simp only [List.length_append, List.length_cons] at enough
        obtain ⟨fuel, rfl⟩ : ∃ less, fuel = less + 2 := ⟨fuel - 2, by omega⟩
        have opens : Opens (joined (memberTexts (m :: ms))) := by
          obtain ⟨k, v⟩ := m
          obtain ⟨body, text, -⟩ := stringText_eq k []
          rw [List.append_nil] at text
          refine opens_joined ?_
          rw [String.toList_append, String.toList_append, text]
          exact opens_of_mark (by decide)
        have read := members?_joined all (List.cons_ne_nil _ _) tail (by omega : _ ≤ fuel)
        refine (value?_obj (opens.append _)).trans ?_
        rw [List.singleton_append, read, reread?]
        cases reread : rereadMembers? (m :: ms) with
        | none => rfl
        | some ms' =>
            -- the members keep their keys, and so their order
            have sorted' : ms'.Pairwise (·.1 < ·.1) := by
              rw [← List.pairwise_map (f := Prod.fst) (R := (· < ·)), keys_rereadMembers? reread,
                List.pairwise_map]
              exact sorted
            exact congrArg (fun v => some (v, tail)) (object_eq sorted')

/-- **Every value is read from its text**, and so is every value in it. -/
theorem Proper.reads {v : Json} (proper : Proper v) : Reads v := by
  induction proper with
  | null => exact ⟨opens_of_mark (by decide), fun _ _ => rfl⟩
  | bool b => cases b <;> exact ⟨opens_of_mark (by decide), fun _ _ => rfl⟩
  | int low high => exact reads_int low high
  | float canonical => exact reads_float canonical
  | str s => exact reads_str s
  | arr _ ih => exact reads_arr ih
  | obj sorted _ ih => exact reads_obj sorted ih

/-- **What is written is read** as what its numbers are read as. -/
theorem parse?_toText {v : Json} (proper : Proper v) : parse? v.toText = v.reread? := by
  have read : value? (2 * v.toText.toList.length + 2) (v.toText.toList ++ []) =
      v.reread?.map fun w => (w, []) := proper.reads.read (by omega) .nil
  rw [List.append_nil] at read
  rw [parse?, read]
  cases v.reread? <;> rfl

end Json

end MaintenanceOutbox
