/-
Text that can be read back. A numeral gives its number again (`value_digits`). A line that begins or
ends with columns of words gives the words and the rest of the line again, from whichever end the
columns are at (`columns_append_inj`, `append_columns_inj`), as wide as the words may be. Lines
without newlines are found again between the newlines of a text (`splitOn_ofLines`).
-/
import Executive.Text.Numeral

namespace Executive.Text

variable {base m n width : Nat} {x y rest rest' numeral : List Char}

/-! ## Numerals -/

/-- The number that a digit stands for, whether its letter is small or capital. -/
def digitValue (c : Char) : Nat :=
  if c.isDigit then c.toNat - '0'.toNat
  else if c.isLower then c.toNat - 'a'.toNat + 10
  else c.toNat - 'A'.toNat + 10

/-- The number that a numeral stands for. -/
def value (base : Nat) (numeral : List Char) : Nat :=
  numeral.foldl (fun n c => base * n + digitValue c) 0

theorem value_concat (c : Char) :
    value base (numeral ++ [c]) = base * value base numeral + digitValue c := by
  simp [value]

/-- Zeros in front do not count. -/
theorem value_zeroFill : value base (zeroFill width numeral) = value base numeral := by
  unfold zeroFill value
  rw [List.leftpad, List.foldl_append]
  congr 1
  generalize width - numeral.length = k
  induction k with
  | zero => rfl
  | succ k ih =>
    rw [List.replicate_succ, List.foldl_cons]
    exact ih

/-- The digits of a number stand for it, in any spelling of the digits that keeps their values. -/
theorem value_digits (hbase : 1 < base) (spell : Char → Char)
    (hspell : ∀ d < base, digitValue (spell d.digitChar) = d) :
    value base ((Nat.toDigits base n).map spell) = n := by
  induction n using Nat.strongRecOn with
  | ind n ih =>
    rw [Nat.toDigits_eq_if hbase]
    split
    next hlt =>
      rw [List.map_singleton, ← List.nil_append [_], value_concat, hspell n hlt]
      exact Nat.zero_add n
    next hge =>
      have hdiv : n / base < n := Nat.div_lt_self (by omega) hbase
      have hmod : n % base < base := Nat.mod_lt n (by omega)
      rw [List.map_append, List.map_singleton, value_concat, ih _ hdiv, hspell _ hmod]
      exact Nat.div_add_mod n base

theorem decimal_inj (h : decimal m = decimal n) : m = n := by
  have hvalue := congrArg (Nat.ofDigitChars 10 · 0) h
  simpa only [decimal, Nat.ofDigitChars_ten_toDigits] using hvalue

theorem value_hex : value 16 (hex n) = n := by
  have h := value_digits (n := n) (by decide : 1 < 16) id (by decide)
  rwa [List.map_id] at h

theorem value_capitalHex : value 16 (capitalHex n) = n :=
  value_digits (by decide) Char.toUpper (by decide)

theorem zeroFill_hex_inj (h : zeroFill width (hex m) = zeroFill width (hex n)) : m = n := by
  have hvalue := congrArg (value 16) h
  rwa [value_zeroFill, value_zeroFill, value_hex, value_hex] at hvalue

theorem zeroFill_capitalHex_inj
    (h : zeroFill width (capitalHex m) = zeroFill width (capitalHex n)) : m = n := by
  have hvalue := congrArg (value 16) h
  rwa [value_zeroFill, value_zeroFill, value_capitalHex, value_capitalHex] at hvalue

/-! ## Words -/

/-- A field that has no room for spaces or newlines. -/
structure IsWord (field : List Char) : Prop where
  ne_nil : field ≠ []
  space : ' ' ∉ field
  newline : '\n' ∉ field

theorem exists_digit_of_mem_toDigits (hbase : 1 < base) {c : Char} (h : c ∈ Nat.toDigits base n) :
    ∃ d < base, d.digitChar = c := by
  induction n using Nat.strongRecOn with
  | ind n ih =>
    rw [Nat.toDigits_eq_if hbase] at h
    split at h
    next hlt => exact ⟨n, hlt, (List.mem_singleton.1 h).symm⟩
    next hge =>
      rcases List.mem_append.1 h with h | h
      · exact ih _ (Nat.div_lt_self (by omega) hbase) h
      · exact ⟨_, Nat.mod_lt n (by omega), (List.mem_singleton.1 h).symm⟩

theorem isWord_digits (hbase : 1 < base) (spell : Char → Char)
    (hspell : ∀ d < base, spell d.digitChar ≠ ' ' ∧ spell d.digitChar ≠ '\n') :
    IsWord ((Nat.toDigits base n).map spell) := by
  have hmem {c : Char} (h : c ∈ (Nat.toDigits base n).map spell) :
      ∃ d < base, spell d.digitChar = c := by
    obtain ⟨c, hc, rfl⟩ := List.mem_map.1 h
    obtain ⟨d, hd, rfl⟩ := exists_digit_of_mem_toDigits hbase hc
    exact ⟨d, hd, rfl⟩
  refine ⟨mt List.map_eq_nil_iff.1 Nat.toDigits_ne_nil, fun h => ?_, fun h => ?_⟩
  · obtain ⟨d, hd, hc⟩ := hmem h
    exact (hspell d hd).1 hc
  · obtain ⟨d, hd, hc⟩ := hmem h
    exact (hspell d hd).2 hc

theorem IsWord.zeroFill (h : IsWord numeral) : IsWord (zeroFill width numeral) := by
  refine ⟨?_, ?_, ?_⟩
  · exact mt (fun heq => (List.append_eq_nil_iff.1 heq).2) h.ne_nil
  · simp [Text.zeroFill, List.leftpad, h.space]
  · simp [Text.zeroFill, List.leftpad, h.newline]

theorem isWord_toDigits (hbase : 1 < base) : IsWord (Nat.toDigits base n) := by
  have h := isWord_digits (n := n) hbase id fun d _ =>
    ⟨Nat.digitChar_ne ' ' rfl, Nat.digitChar_ne '\n' rfl⟩
  rwa [List.map_id] at h

theorem isWord_decimal : IsWord (decimal n) := isWord_toDigits (by decide)

theorem isWord_hex : IsWord (hex n) := isWord_toDigits (by decide)

theorem isWord_capitalHex : IsWord (capitalHex n) :=
  isWord_digits (by decide) Char.toUpper (by decide)

/-! ## Fields -/

@[simp] theorem fields_singleton (field : List Char) : fields [field] = field :=
  List.intercalate_singleton

theorem fields_cons {parts : List (List Char)} (field : List Char) (h : parts ≠ []) :
    fields (field :: parts) = field ++ ' ' :: fields parts := by
  rw [fields, List.intercalate_cons_of_ne_nil h, List.append_assoc]; rfl

theorem fields_concat {parts : List (List Char)} (field : List Char) (h : parts ≠ []) :
    fields (parts ++ [field]) = fields parts ++ ' ' :: field := by
  induction parts with
  | nil => exact absurd rfl h
  | cons part parts ih =>
    rw [List.cons_append, fields_cons part (by simp)]
    by_cases hparts : parts = []
    · subst hparts; simp
    · rw [ih hparts, fields_cons part hparts, List.append_assoc]; rfl

@[simp] theorem alignRight_zero (field : List Char) : alignRight 0 field = field := by
  simp [alignRight, List.leftpad]

theorem dropWhile_alignRight (h : (x ++ rest).head? ≠ some ' ') :
    (alignRight width x ++ rest).dropWhile (· == ' ') = x ++ rest := by
  rw [alignRight, List.leftpad, List.append_assoc, List.dropWhile_append_of_pos (by simp),
    List.dropWhile_beq_eq_self_of_head?_ne h]

theorem IsWord.head?_append_ne (h : IsWord x) : (x ++ rest).head? ≠ some ' ' := by
  obtain ⟨c, cs, rfl⟩ := List.exists_cons_of_ne_nil h.ne_nil
  intro heq
  obtain rfl : c = ' ' := Option.some.inj heq
  exact h.space List.mem_cons_self

/-- Where a text is cut at its first space, it can be put together in one way only. -/
theorem cut_first_space (hx : ' ' ∉ x) (hy : ' ' ∉ y) (h : x ++ ' ' :: rest = y ++ ' ' :: rest') :
    x = y ∧ rest = rest' := by
  have hsplit := congrArg (List.splitOn ' ') h
  rw [List.splitOn_append_cons_self_of_not_mem hx, List.splitOn_append_cons_self_of_not_mem hy] at hsplit
  have hxy : x = y := (List.cons.inj hsplit).1
  subst hxy
  exact ⟨rfl, (List.cons.inj (List.append_cancel_left h)).2⟩

/-- The same of the last space. -/
theorem cut_last_space (hx : ' ' ∉ x) (hy : ' ' ∉ y) (h : rest ++ ' ' :: x = rest' ++ ' ' :: y) :
    rest = rest' ∧ x = y := by
  have hrev := congrArg List.reverse h
  simp only [List.reverse_append, List.reverse_cons, List.append_assoc, List.singleton_append] at hrev
  obtain ⟨hxy, hrest⟩ := cut_first_space (by simpa using hx) (by simpa using hy) hrev
  exact ⟨List.reverse_inj.1 hrest, List.reverse_inj.1 hxy⟩

/-- A word aligned at the beginning of a line can be told from the rest. -/
theorem first_column_inj (hx : IsWord x) (hy : IsWord y)
    (h : alignRight width x ++ ' ' :: rest = alignRight width y ++ ' ' :: rest') :
    x = y ∧ rest = rest' := by
  have hstrip := congrArg (List.dropWhile (· == ' ')) h
  rw [dropWhile_alignRight hx.head?_append_ne, dropWhile_alignRight hy.head?_append_ne] at hstrip
  exact cut_first_space hx.space hy.space hstrip

/-- A word aligned at the end of a line can be told from the rest. -/
theorem last_column_inj (hx : IsWord x) (hy : IsWord y)
    (h : rest ++ ' ' :: alignRight width x = rest' ++ ' ' :: alignRight width y) :
    rest = rest' ∧ x = y := by
  -- the spaces that align the word are counted to what is in front of the last space
  have hshift (rest x : List Char) : rest ++ ' ' :: alignRight width x =
      (rest ++ List.replicate (width - x.length) ' ') ++ ' ' :: x := by
    rw [alignRight, List.leftpad, ← List.cons_append, ← List.replicate_succ, List.replicate_succ']
    simp
  rw [hshift, hshift] at h
  obtain ⟨hrest, hxy⟩ := cut_last_space hx.space hy.space h
  subst hxy
  exact ⟨List.append_cancel_right hrest, rfl⟩

/-- A field filled up with spaces on the right is known if it does not end in a space itself. -/
theorem alignLeft_inj (hx : x.getLast? ≠ some ' ') (hy : y.getLast? ≠ some ' ')
    (h : alignLeft width x = alignLeft width y) : x = y := by
  have hrev (x : List Char) : (alignLeft width x).reverse = alignRight width x.reverse ++ [] := by
    simp [alignLeft, alignRight, List.leftpad, List.rightpad]
  have hstrip := congrArg (fun field => field.reverse.dropWhile (· == ' ')) h
  simp only [hrev] at hstrip
  rw [dropWhile_alignRight (by simpa using hx), dropWhile_alignRight (by simpa using hy)] at hstrip
  simpa using hstrip

-- a space at the end is taken for filling
example : alignLeft 4 ['r', 'x', ' '] = alignLeft 4 ['r', 'x'] := rfl

/-! ## Columns -/

/-- Words in columns of these least widths, each ending where its column ends. -/
def columns (widths : List Nat) (words : List (List Char)) : List (List Char) :=
  List.zipWith alignRight widths words

/-- There is a word for each column. -/
inductive Fills : List Nat → List (List Char) → Prop where
  | nil : Fills [] []
  | cons {width : Nat} {word : List Char} {widths : List Nat} {words : List (List Char)} :
      IsWord word → Fills widths words → Fills (width :: widths) (word :: words)

variable {widths : List Nat} {xs ys parts parts' : List (List Char)}

/-- Columns at the beginning of a line can be read, and the rest of the line is known. -/
theorem columns_append_inj (hxs : Fills widths xs) (hys : Fills widths ys) (hparts : parts ≠ [])
    (hparts' : parts' ≠ [])
    (h : fields (columns widths xs ++ parts) = fields (columns widths ys ++ parts')) :
    xs = ys ∧ fields parts = fields parts' := by
  induction hxs generalizing ys with
  | nil =>
    cases hys
    exact ⟨rfl, h⟩
  | cons hx _ ih =>
    cases hys with
    | cons hy hys =>
      simp only [columns, List.zipWith_cons_cons, List.cons_append] at h
      rw [fields_cons _ (by simp [hparts]), fields_cons _ (by simp [hparts'])] at h
      obtain ⟨hxy, h⟩ := first_column_inj hx hy h
      obtain ⟨hwords, h⟩ := ih hys h
      exact ⟨by rw [hxy, hwords], h⟩

/-- Columns at the end of a line can be read, and the rest of the line is known. -/
theorem append_columns_inj (hxs : Fills widths xs) (hys : Fills widths ys) (hparts : parts ≠ [])
    (hparts' : parts' ≠ [])
    (h : fields (parts ++ columns widths xs) = fields (parts' ++ columns widths ys)) :
    fields parts = fields parts' ∧ xs = ys := by
  induction hxs generalizing ys parts parts' with
  | nil =>
    cases hys
    simp only [columns, List.zipWith_nil_right, List.append_nil] at h
    exact ⟨h, rfl⟩
  | cons hx _ ih =>
    cases hys with
    | cons hy hys =>
      -- the first column goes to what is in front of the others
      simp only [columns, List.zipWith_cons_cons] at h
      rw [List.append_cons, List.append_cons parts'] at h
      obtain ⟨h, hwords⟩ := ih hys (by simp) (by simp) h
      rw [fields_concat _ hparts, fields_concat _ hparts'] at h
      obtain ⟨h, hxy⟩ := last_column_inj hx hy h
      exact ⟨h, by rw [hxy, hwords]⟩

/-- Two fields in front of columns, of which the second is known, are known both. -/
theorem titled_columns_inj {title : List Char} (hxs : Fills widths xs) (hys : Fills widths ys)
    (h : fields ([x, title] ++ columns widths xs) = fields ([y, title] ++ columns widths ys)) :
    x = y ∧ xs = ys := by
  obtain ⟨htitled, hwords⟩ := append_columns_inj hxs hys (by simp) (by simp) h
  rw [fields_cons x (by simp), fields_cons y (by simp)] at htitled
  exact ⟨List.append_cancel_right htitled, hwords⟩

/-! ## Lines -/

theorem newline_not_mem_fields (h : ∀ part ∈ parts, '\n' ∉ part) : '\n' ∉ fields parts := by
  induction parts with
  | nil => exact List.not_mem_nil
  | cons part parts ih =>
    by_cases hparts : parts = []
    · subst hparts; simpa using h
    · rw [fields_cons part hparts]
      have hpart := h part List.mem_cons_self
      have hrest := ih fun q hq => h q (List.mem_cons_of_mem _ hq)
      simp [hpart, hrest]

theorem newline_not_mem_columns (h : Fills widths xs) : ∀ part ∈ columns widths xs, '\n' ∉ part := by
  induction h with
  | nil => exact fun _ hmem => nomatch hmem
  | cons hx _ ih =>
    intro part hmem
    rcases List.mem_cons.1 hmem with rfl | hmem
    · simp [alignRight, List.leftpad, hx.newline]
    · exact ih part hmem

theorem newline_not_mem_titled {title : List Char} (hx : '\n' ∉ x) (htitle : '\n' ∉ title)
    (hxs : Fills widths xs) : '\n' ∉ fields ([x, title] ++ columns widths xs) := by
  have hfront : ∀ part ∈ [x, title], '\n' ∉ part :=
    List.forall_mem_cons.2 ⟨hx, List.forall_mem_singleton.2 htitle⟩
  exact newline_not_mem_fields (List.forall_mem_append.2 ⟨hfront, newline_not_mem_columns hxs⟩)

/-- The lines of a text stand between its newlines, and nothing follows the last of these. -/
theorem splitOn_ofLines (h : ∀ line ∈ parts, '\n' ∉ line) :
    (ofLines parts).toList.splitOn '\n' = parts ++ [[]] := by
  rw [ofLines, String.toList_ofList]
  induction parts with
  | nil => rfl
  | cons line lines ih =>
    rw [List.flatMap_cons, List.append_assoc, List.singleton_append,
      List.splitOn_append_cons_self_of_not_mem (h line List.mem_cons_self),
      ih fun l hl => h l (List.mem_cons_of_mem _ hl)]
    rfl

theorem ofLines_inj (h : ∀ line ∈ parts, '\n' ∉ line) (h' : ∀ line ∈ parts', '\n' ∉ line)
    (heq : ofLines parts = ofLines parts') : parts = parts' := by
  have hsplit := congrArg (·.toList.splitOn '\n') heq
  simp only [splitOn_ofLines h, splitOn_ofLines h'] at hsplit
  exact List.append_cancel_right hsplit

end Executive.Text
