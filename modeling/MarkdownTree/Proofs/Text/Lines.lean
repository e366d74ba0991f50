import MarkdownTree.Text.Blank
import MarkdownTree.Text.Lines
import MarkdownTree.Text.Quoted

/-!
# Texts line by line

A text that is put together from pieces, each with a line feed behind it, falls into these pieces
again, unless one of them has a line feed of its own.

* `lines_line`, `mem_of_mem_lines`, `length_lines` — the lines of such a text, what stands in
  them, and how many there are.
* `withMargin` — a text with a margin in front of every line.
* `withMargin_line`, `length_withMargin` — the margin reaches a piece once for every line feed in
  it, and once for its own.
* `newline_notMem_quoted` — a quoted text has no line feed.
* `isDigit_of_mem_toString`, `mem_toString` — the characters of a number.
-/

namespace MarkdownTree.Text

variable {line p s : List Char} {c : Char}

/-! ## Lines -/

theorem linesFrom_append (h : '\n' ∉ p) (line s : List Char) :
    linesFrom line (p ++ s) = linesFrom (p.reverse ++ line) s := by
  induction p generalizing line with
  | nil => rfl
  | cons c p ih =>
    have hc : c ≠ '\n' := fun he => h (he ▸ List.mem_cons_self)
    have hp : '\n' ∉ p := fun hm => h (List.mem_cons_of_mem c hm)
    rw [List.cons_append, linesFrom.eq_3 line c (p ++ s) hc, ih hp]
    simp

/-- The first line of a text ends at its first line feed. -/
theorem lines_line (h : '\n' ∉ p) (s : List Char) :
    lines (p ++ '\n' :: s) = chop p.reverse :: lines s := by
  rw [lines, linesFrom_append h, linesFrom, List.append_nil]
  rfl

theorem chop_reverse (h : '\r' ∉ p) : chop p.reverse = p := by
  unfold chop
  split
  · next hp =>
    have hmem : '\r' ∈ p.reverse := by
      rw [hp]
      exact List.mem_cons_self
    exact absurd (List.mem_reverse.mp hmem) h
  · exact List.reverse_reverse p

/-- A carriage return at the end of a line is not part of what stands before it. -/
theorem prefix_chop_reverse (hc : c ≠ '\r') (p s : List Char) :
    p ++ [c] <+: chop (p ++ [c] ++ s).reverse := by
  rcases List.eq_nil_or_concat s with rfl | ⟨q, d, rfl⟩
  · rw [List.append_nil, List.reverse_concat]
    unfold chop
    split
    · next he => exact absurd (List.cons.inj he).1 hc
    · exact ⟨[], by simp⟩
  · have hreverse : (p ++ [c] ++ q.concat d).reverse = d :: (p ++ [c] ++ q).reverse := by simp
    rw [hreverse]
    unfold chop
    split
    · next he =>
      rw [← (List.cons.inj he).2, List.reverse_reverse]
      exact List.prefix_append _ _
    · rw [← hreverse, List.reverse_reverse]
      exact List.prefix_append _ _

theorem mem_of_mem_chop (h : c ∈ chop p) : c ∈ p := by
  unfold chop at h
  split at h
  · exact List.mem_cons_of_mem _ (List.mem_reverse.mp h)
  · exact List.mem_reverse.mp h

theorem mem_of_mem_linesFrom : ∀ {s line l : List Char}, '\n' ∉ line → l ∈ linesFrom line s →
    c ∈ l → (c ∈ line ∨ c ∈ s) ∧ c ≠ '\n'
  | [], line, l, hline, hl, hc => by
    rw [linesFrom] at hl
    split at hl
    · cases hl
    · rw [List.mem_singleton.mp hl, List.mem_reverse] at hc
      exact ⟨.inl hc, fun he => hline (he ▸ hc)⟩
  | d :: s, line, l, hline, hl, hc => by
    by_cases hd : d = '\n'
    · subst hd
      rw [linesFrom] at hl
      rcases List.mem_cons.mp hl with rfl | hl
      · have hc := mem_of_mem_chop hc
        exact ⟨.inl hc, fun he => hline (he ▸ hc)⟩
      · obtain ⟨hmem, hne⟩ := mem_of_mem_linesFrom List.not_mem_nil hl hc
        exact ⟨.inr (List.mem_cons_of_mem _ (hmem.resolve_left List.not_mem_nil)), hne⟩
    · rw [linesFrom.eq_3 line d s hd] at hl
      have hline' : '\n' ∉ d :: line := by
        rintro (_ | ⟨_, hm⟩)
        · exact hd rfl
        · exact hline hm
      obtain ⟨hmem, hne⟩ := mem_of_mem_linesFrom hline' hl hc
      refine ⟨?_, hne⟩
      rcases hmem with hmem | hmem
      · rcases List.mem_cons.mp hmem with rfl | hmem
        · exact .inr List.mem_cons_self
        · exact .inl hmem
      · exact .inr (List.mem_cons_of_mem d hmem)

/-- The characters of a line are characters of the text, and none of them is a line feed. -/
theorem mem_of_mem_lines {l : List Char} (hl : l ∈ lines s) (hc : c ∈ l) : c ∈ s ∧ c ≠ '\n' := by
  obtain ⟨hmem, hne⟩ := mem_of_mem_linesFrom List.not_mem_nil hl hc
  exact ⟨hmem.resolve_left List.not_mem_nil, hne⟩

theorem newline_notMem_of_mem_lines {l : List Char} (hl : l ∈ lines s) : '\n' ∉ l :=
  fun hc => (mem_of_mem_lines hl hc).2 rfl

theorem notMem_lines (h : c ∉ s) : ∀ l ∈ lines s, c ∉ l :=
  fun _ hl hc => h (mem_of_mem_lines hl hc).1

theorem linesFrom_ne_nil (h : line ≠ []) (s : List Char) : linesFrom line s ≠ [] := by
  induction s generalizing line with
  | nil => simpa [linesFrom] using h
  | cons c s ih =>
    by_cases hc : c = '\n'
    · subst hc
      exact List.cons_ne_nil _ _
    · rw [linesFrom.eq_3 line c s hc]
      exact ih (List.cons_ne_nil c line)

/-- Only the empty text has no line. -/
theorem lines_eq_nil_iff : lines s = [] ↔ s = [] := by
  cases s with
  | nil => simp [lines, linesFrom]
  | cons c s =>
    refine iff_of_false ?_ (List.cons_ne_nil c s)
    by_cases hc : c = '\n'
    · subst hc
      exact List.cons_ne_nil _ _
    · rw [lines, linesFrom.eq_3 [] c s hc]
      exact linesFrom_ne_nil (List.cons_ne_nil c []) s

theorem length_linesFrom (line s : List Char) :
    (linesFrom line (s ++ ['\n'])).length = s.count '\n' + 1 := by
  induction s generalizing line with
  | nil => rfl
  | cons c s ih =>
    by_cases hc : c = '\n'
    · subst hc
      rw [List.cons_append, linesFrom, List.length_cons, ih, List.count_cons_self]
    · rw [List.cons_append, linesFrom.eq_3 line c _ hc, ih, List.count_cons_of_ne hc]

/-- A text that ends with a line feed has as many lines as line feeds. -/
theorem length_lines (s : List Char) :
    (lines (s ++ ['\n'])).length = (s ++ ['\n']).count '\n' := by
  rw [lines, length_linesFrom, List.count_append]
  rfl

/-- The same for pieces with a line feed behind each of them. -/
theorem length_lines_flatMap {α : Type} (f : α → List Char) (l : List α) :
    (lines (l.flatMap fun a => f a ++ ['\n'])).length =
      (l.flatMap fun a => f a ++ ['\n']).count '\n' := by
  rcases List.eq_nil_or_concat l with rfl | ⟨l, a, rfl⟩
  · rfl
  · have hlast : ((l.concat a).flatMap fun a => f a ++ ['\n']) =
        (l.flatMap fun a => f a ++ ['\n']) ++ f a ++ ['\n'] := by simp
    rw [hlast, length_lines]

/-! ## Margins -/

/-- A text with a margin in front of every line. `atStart` says whether a line begins here. -/
def withMargin (margin : List Char) : (atStart : Bool) → List Char → List Char
  | _, [] => []
  | atStart, c :: s => (if atStart then margin else []) ++ c :: withMargin margin (c == '\n') s

@[simp] theorem withMargin_nil (atStart : Bool) (s : List Char) :
    withMargin [] atStart s = s := by
  induction s generalizing atStart with
  | nil => rfl
  | cons c s ih => simp [withMargin, ih]

theorem withMargin_of_notMem {margin : List Char} (h : '\n' ∉ p) (s : List Char) :
    withMargin margin false (p ++ '\n' :: s) = p ++ '\n' :: withMargin margin true s := by
  induction p with
  | nil => rfl
  | cons c p ih =>
    have hc : (c == '\n') = false := beq_eq_false_iff_ne.mpr fun he => h (he ▸ List.mem_cons_self)
    have hp : '\n' ∉ p := fun hm => h (List.mem_cons_of_mem c hm)
    rw [List.cons_append, withMargin, hc, ih hp]
    rfl

/-- A margin comes in front of a line, and then in front of the lines behind it. -/
theorem withMargin_line {margin : List Char} (h : '\n' ∉ p) (s : List Char) :
    withMargin margin true (p ++ '\n' :: s) = margin ++ p ++ '\n' :: withMargin margin true s := by
  cases p with
  | nil => simp [withMargin]
  | cons c p =>
    have hfirst : withMargin margin true (c :: p ++ '\n' :: s) =
        margin ++ withMargin margin false (c :: p ++ '\n' :: s) := rfl
    rw [hfirst, withMargin_of_notMem h, List.append_assoc]

/-- The margin also comes in front of what stands behind each line feed of a piece. -/
theorem length_withMargin (margin : List Char) (atStart : Bool) (p s : List Char) :
    (withMargin margin atStart (p ++ '\n' :: s)).length =
      p.length + 1 + margin.length * (p.count '\n' + atStart.toNat) +
        (withMargin margin true s).length := by
  induction p generalizing atStart with
  | nil =>
    cases atStart <;> simp [withMargin] <;> omega
  | cons c p ih =>
    have hstart : (if atStart then margin else []).length = margin.length * atStart.toNat := by
      cases atStart <;> simp
    have hcount : (c :: p).count '\n' = p.count '\n' + (c == '\n').toNat := by
      rw [List.count_cons]
      cases c == '\n' <;> rfl
    rw [List.cons_append, withMargin, List.length_append, List.length_cons, ih, hstart, hcount,
      List.length_cons]
    simp only [Nat.mul_add]
    omega

/-! ## Blanks at the end -/

theorem mem_of_mem_trimEnd (h : c ∈ trimEnd s) : c ∈ s := by
  rw [trimEnd, List.mem_reverse] at h
  exact List.mem_reverse.mp (List.dropWhile_subset _ h)

theorem notMem_lines_trimEnd (h : c ∉ s) : ∀ l ∈ lines (trimEnd s), c ∉ l :=
  notMem_lines fun hmem => h (mem_of_mem_trimEnd hmem)

/-! ## Quoted texts and numbers -/

theorem newline_notMem_hexDigits (n : Nat) : '\n' ∉ hexDigits n := by
  induction n using Nat.strongRecOn with
  | _ n ih =>
    have hdigit : ∀ d < 16, '\n' ≠ d.digitChar := by decide
    rw [hexDigits, Nat.toDigits_eq_if (by decide)]
    split
    · next hn =>
      intro h
      exact hdigit n hn (List.mem_singleton.mp h)
    · intro h
      rcases List.mem_append.mp h with h | h
      · exact ih (n / 16) (by omega) h
      · exact hdigit (n % 16) (Nat.mod_lt n (by decide)) (List.mem_singleton.mp h)

theorem newline_notMem_quoteChar (c : Char) : '\n' ∉ quoteChar c := by
  unfold quoteChar
  split
  · decide
  · decide
  · decide
  · decide
  · decide
  · decide
  · next hnewline _ _ =>
    split
    · intro h
      exact hnewline (List.mem_singleton.mp h).symm
    · simp [newline_notMem_hexDigits]

/-- **A quoted text has no line feed.** -/
theorem newline_notMem_quoted (s : String) : '\n' ∉ quoted s := by
  simp [quoted, newline_notMem_quoteChar]

theorem isDigit_of_mem_toString {n : Nat} (h : c ∈ (toString n).toList) : c.isDigit = true := by
  rw [Nat.toString_eq_ofList_toDigits, String.toList_ofList] at h
  exact Nat.isDigit_of_mem_toDigits (by decide) (by decide) h

/-- A number is written with digits, and with a sign in front if it is negative. -/
theorem mem_toString {n : Int} (h : c ∈ (toString n).toList) : c = '-' ∨ c.isDigit = true := by
  rw [Int.toString_eq_repr, Int.repr_eq_if] at h
  split at h
  · exact .inr (isDigit_of_mem_toString h)
  · rw [String.toList_append, List.mem_append] at h
    rcases h with h | h
    · exact .inl (List.mem_singleton.mp h)
    · exact .inr (isDigit_of_mem_toString h)

end MarkdownTree.Text
