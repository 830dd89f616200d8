import ScriptAssist.Proofs.Template.Grammar

namespace ScriptAssist.Template

open Text

/-- A number can be read back if its digits keep within the limit, a name if it begins like one and
goes on like one. -/
def Head.Writable : Head → Prop
  | .index n => (Nat.toDigits 10 n).length ≤ digitLimit
  | .name [] => False
  | .name (c :: cs) => isNameStart c ∧ cs.all isNameChar

instance : (head : Head) → Decidable head.Writable
  | .index n => inferInstanceAs (Decidable ((Nat.toDigits 10 n).length ≤ digitLimit))
  | .name [] => inferInstanceAs (Decidable False)
  | .name (c :: cs) => inferInstanceAs (Decidable (isNameStart c ∧ cs.all isNameChar))

/-- Every head can be read back, and no placeholder is bare: the printer puts them all in braces. -/
def Writable : Template → Prop
  | done => True
  | char _ rest => rest.Writable
  | bare _ _ => False
  | closed head rest => head.Writable ∧ rest.Writable
  | filled head default rest => head.Writable ∧ default.Writable ∧ rest.Writable

theorem print_append (s t : Template) : (s ++ t).print = s.print ++ t.print := by
  induction s <;> simp_all [print]

theorem writable_append {s t : Template} (hs : s.Writable) (ht : t.Writable) :
    (s ++ t).Writable := by
  induction s <;> simp_all [Writable]

/-- How the printer writes a head. -/
def Head.spelling : Head → Spelling
  | .index n => .digits (Nat.toDigits 10 n)
  | .name id => .name id

namespace Head

theorem text_spelling (head : Head) : head.spelling.text = head.print := by
  cases head <;> rfl

theorem formed_spelling {head : Head} (h : head.Writable) : head.spelling.Formed := by
  cases head with
  | index n =>
    have digits : ∀ c ∈ Nat.toDigits 10 n, isDigit c :=
      fun c hc => isDigit_of_isDecimal (isDecimal_of_mem_toDigits hc)
    refine ⟨?_, digits⟩
    cases run : Nat.toDigits 10 n with
    | nil => exact absurd run Nat.toDigits_ne_nil
    | cons c cs =>
      refine ⟨c, ?_, digits c (by simp [run])⟩
      simp [spelling, Spelling.text, run]
  | name id =>
    cases id with
    | nil => exact h.elim
    | cons c cs =>
      refine ⟨⟨c, rfl, h.1⟩, ?_⟩
      intro d hd
      change isNameChar d
      rcases List.mem_cons.1 hd with rfl | hd
      · simp [isNameChar, h.1]
      · exact List.all_eq_true.1 h.2 d hd

theorem value_spelling {head : Head} (h : head.Writable) : head.spelling.value = .ok head := by
  cases head with
  | index n => rw [spelling, Spelling.value, readNumber_toDigits n h]
  | name id => rfl

end Head

/-- How the printer puts a template together. -/
def derivation : Template → Derivation
  | done => .done
  | char c rest => if isEscapable c then .escaped c rest.derivation else .char c rest.derivation
  | bare head rest => .closed head.spelling rest.derivation
  | closed head rest => .closed head.spelling rest.derivation
  | filled head default rest => .filled head.spelling default.derivation rest.derivation

theorem spell_derivation (t : Template) : t.derivation.spell = t.print := by
  induction t with
  | done => rfl
  | char c rest ih =>
    by_cases escapable : isEscapable c <;>
      simp [derivation, Derivation.spell, print, escape, escapable, ih]
  | bare head rest ih | closed head rest ih =>
    simp [derivation, Derivation.spell, print, Head.text_spelling, ih]
  | filled head default rest default_ih ih =>
    simp [derivation, Derivation.spell, print, Head.text_spelling, default_ih, ih]

theorem fits_derivation {t : Template} (h : t.Writable) (nested : Bool) (after : List Char) :
    t.derivation.Fits nested after := by
  -- Nothing that is printed looks at what follows it, so `after` may be anything.
  induction t generalizing nested after with
  | done => trivial
  | char c rest ih =>
    have fits := ih h nested after
    by_cases escapable : isEscapable c
    · rw [derivation, if_pos escapable]
      exact ⟨escapable, fits⟩
    · rw [derivation, if_neg escapable]
      simp only [isEscapable, Bool.or_eq_true, decide_eq_true_eq, not_or] at escapable
      exact ⟨escapable.2, escapable.1.1, fun brace => absurd brace escapable.1.2, fits⟩
  | bare head rest => exact h.elim
  | closed head rest ih =>
    obtain ⟨valued, -⟩ := Spelling.value_eq_ok_iff.1 (Head.value_spelling h.1)
    exact ⟨Head.formed_spelling h.1, valued, ih h.2 nested after⟩
  | filled head default rest default_ih ih =>
    obtain ⟨valued, -⟩ := Spelling.value_eq_ok_iff.1 (Head.value_spelling h.1)
    exact ⟨Head.formed_spelling h.1, valued, default_ih h.2.1 true _, ih h.2.2 nested after⟩

theorem template_derivation {t : Template} (h : t.Writable) : t.derivation.template = t := by
  induction t with
  | done => rfl
  | char c rest ih =>
    by_cases escapable : isEscapable c <;>
      simp [derivation, Derivation.template, escapable, ih h]
  | bare head rest => exact h.elim
  | closed head rest ih =>
    obtain ⟨-, same⟩ := Spelling.value_eq_ok_iff.1 (Head.value_spelling h.1)
    rw [derivation, Derivation.template, same, ih h.2]
  | filled head default rest default_ih ih =>
    obtain ⟨-, same⟩ := Spelling.value_eq_ok_iff.1 (Head.value_spelling h.1)
    rw [derivation, Derivation.template, same, default_ih h.2.1, ih h.2.2]

theorem read_print (t : Template) (h : t.Writable) : read t.print = .ok t :=
  read_eq_ok_iff.2
    ⟨t.derivation, ⟨t.spell_derivation, fits_derivation h false []⟩, template_derivation h⟩

/-- A template as its author thinks of it: pieces of literal text and placeholders, each with or
without a default, one after the other. -/
inductive Tree where
  | literal (text : List Char)
  | plain (head : Head)
  | filled (head : Head) (default : Tree)
  | both (first second : Tree)
  deriving DecidableEq, Repr

namespace Tree

/-- Literal text is escaped and every placeholder stands in braces. -/
def print : Tree → List Char
  | literal text => escape text
  | plain head => ['$', '{'] ++ head.print ++ ['}']
  | filled head default => ['$', '{'] ++ head.print ++ [':'] ++ default.print ++ ['}']
  | both first second => first.print ++ second.print

/-- What a tree shows: a number its default, a name its default or, if that shows nothing, itself. -/
def text : Tree → List Char
  | literal text => text
  | plain (.index _) => []
  | plain (.name id) => id
  | filled (.index _) default => default.text
  | filled (.name id) default => if default.text = [] then id else default.text
  | both first second => first.text ++ second.text

/-- The numbers with the texts of their defaults; a default comes before the number that has it. -/
def stops : Tree → List Stop
  | literal _ => []
  | plain (.index n) => [⟨n, []⟩]
  | plain (.name _) => []
  | filled (.index n) default => default.stops ++ [⟨n, default.text⟩]
  | filled (.name _) default => default.stops
  | both first second => first.stops ++ second.stops

/-- The names; a default comes before the name that has it. -/
def names : Tree → List (List Char)
  | literal _ => []
  | plain (.index _) => []
  | plain (.name id) => [id]
  | filled (.index _) default => default.names
  | filled (.name id) default => default.names ++ [id]
  | both first second => first.names ++ second.names

/-- Whether `n` is the number of a placeholder at any depth. -/
def Numbers (n : Nat) : Tree → Prop
  | literal _ => False
  | plain head => head = .index n
  | filled head default => head = .index n ∨ default.Numbers n
  | both first second => first.Numbers n ∨ second.Numbers n

/-- Every head at any depth can be read back. -/
def Writable : Tree → Prop
  | literal _ => True
  | plain head => head.Writable
  | filled head default => head.Writable ∧ default.Writable
  | both first second => first.Writable ∧ second.Writable

def decideWritable : (tree : Tree) → Decidable tree.Writable
  | literal _ => isTrue trivial
  | plain head => inferInstanceAs (Decidable head.Writable)
  | filled head default =>
    have := default.decideWritable
    inferInstanceAs (Decidable (head.Writable ∧ default.Writable))
  | both first second =>
    have := first.decideWritable
    have := second.decideWritable
    inferInstanceAs (Decidable (first.Writable ∧ second.Writable))

instance (tree : Tree) : Decidable tree.Writable := tree.decideWritable

/-- The template that the reader makes of a tree. -/
def template : Tree → Template
  | literal text => text.foldr char done
  | plain head => Template.closed head done
  | filled head default => Template.filled head default.template done
  | both first second => first.template ++ second.template

theorem writable_template (tree : Tree) (h : tree.Writable) : tree.template.Writable := by
  induction tree with
  | literal text => induction text <;> simp_all [template, Template.Writable, Writable]
  | plain head => exact ⟨h, trivial⟩
  | filled head default ih => exact ⟨h.1, ih h.2, trivial⟩
  | both first second first_ih second_ih => exact writable_append (first_ih h.1) (second_ih h.2)

theorem print_template (tree : Tree) : tree.template.print = tree.print := by
  induction tree with
  | literal text => induction text <;> simp_all [template, Template.print, print, escape]
  | plain head => simp [template, Template.print, print]
  | filled head default ih => simp [template, Template.print, print, ih]
  | both first second first_ih second_ih =>
    simp [template, print, print_append, first_ih, second_ih]

/-- The reader gives back the template of the tree that was printed. -/
protected theorem read_print (tree : Tree) (h : tree.Writable) :
    read tree.print = .ok tree.template := by
  rw [← tree.print_template]
  exact Template.read_print tree.template (tree.writable_template h)

theorem render_template (tree : Tree) : tree.template.render = tree.text := by
  induction tree with
  | literal text => induction text <;> simp_all [template, render, text]
  | plain head => cases head <;> simp [template, render, text, Head.shown]
  | filled head default ih => cases head <;> simp [template, render, text, Head.shown, ih]
  | both first second first_ih second_ih => simp [template, text, first_ih, second_ih]

theorem stops_template (tree : Tree) : tree.template.stops = tree.stops := by
  induction tree with
  | literal text => induction text <;> simp_all [template, Template.stops, stops]
  | plain head => cases head <;> simp [template, Template.stops, stops, Head.stops]
  | filled head default ih =>
    cases head <;> simp [template, Template.stops, stops, Head.stops, ih, render_template]
  | both first second first_ih second_ih => simp [template, stops, first_ih, second_ih]

theorem names_template (tree : Tree) : tree.template.names = tree.names := by
  induction tree with
  | literal text => induction text <;> simp_all [template, Template.names, names]
  | plain head => cases head <;> simp [template, Template.names, names, Head.names]
  | filled head default ih => cases head <;> simp [template, Template.names, names, Head.names, ih]
  | both first second first_ih second_ih => simp [template, names, first_ih, second_ih]

theorem mem_stops_iff (n : Nat) (tree : Tree) :
    n ∈ tree.stops.map Stop.index ↔ tree.Numbers n := by
  induction tree with
  | literal text => simp [stops, Numbers]
  | plain head => cases head <;> simp [stops, Numbers, eq_comm]
  | filled head default ih => cases head <;> simp_all [stops, Numbers, eq_comm, or_comm]
  | both first second first_ih second_ih => simp_all [stops, Numbers]

end Tree

theorem nodup_eraseDups (numbers : List Nat) : numbers.eraseDups.Nodup := by
  induction hn : numbers.length using Nat.strong_induction_on generalizing numbers with
  | _ length ih =>
    cases numbers with
    | nil => simp
    | cons n numbers =>
      have shorter : (numbers.filter fun m => !m == n).length < length := by
        have := List.length_filter_le (fun m => !m == n) numbers
        simp only [List.length_cons] at hn
        omega
      rw [List.eraseDups_cons]
      refine List.nodup_cons.2 ⟨?_, ih _ shorter _ rfl⟩
      simp [List.mem_eraseDups]

/-- Zero comes after every other number, and the others ascend. -/
def Before (m n : Nat) : Prop := m ≠ 0 ∧ (n = 0 ∨ m < n)

theorem tabOrder_pairwise (t : Template) : t.tabOrder.Pairwise Before := by
  let numbers := ((t.stops.map Stop.index).filter (· ≠ 0)).eraseDups
  have positive : ∀ n ∈ numbers.mergeSort (· ≤ ·), n ≠ 0 := by
    intro n hn
    have hn : n ∈ (t.stops.map Stop.index).filter (· ≠ 0) :=
      List.mem_eraseDups.1 (List.mem_mergeSort.1 hn)
    simpa using (List.mem_filter.1 hn).2
  have ascending : (numbers.mergeSort (· ≤ ·)).Pairwise (· ≤ ·) := by
    have sorted := @List.pairwise_mergeSort Nat (fun m n => decide (m ≤ n))
      (by simp only [decide_eq_true_eq]; omega)
      (by simp only [Bool.or_eq_true, decide_eq_true_eq]; omega) numbers
    simpa using sorted
  have distinct : (numbers.mergeSort (· ≤ ·)).Nodup :=
    (List.mergeSort_perm numbers _).nodup_iff.2 (nodup_eraseDups _)
  have strict : (numbers.mergeSort (· ≤ ·)).Pairwise Before := by
    refine (ascending.and distinct).imp_of_mem ?_
    intro m n hm hn hmn
    have := positive m hm
    exact ⟨this, Or.inr (by omega)⟩
  change (numbers.mergeSort (· ≤ ·) ++ if t.hasFinalStop then [0] else []).Pairwise Before
  refine List.pairwise_append.2 ⟨strict, ?_, ?_⟩
  · split <;> simp
  · intro m hm n hn
    have zero : n = 0 := by split at hn <;> simp_all
    exact ⟨positive m hm, Or.inl zero⟩

theorem tabOrder_nodup (t : Template) : t.tabOrder.Nodup := by
  refine (tabOrder_pairwise t).imp ?_
  rintro m n ⟨positive, zero | less⟩ <;> omega

theorem mem_tabOrder (n : Nat) (t : Template) :
    n ∈ t.tabOrder ↔ n ∈ t.stops.map Stop.index := by
  simp only [tabOrder, List.mem_append, List.mem_mergeSort, List.mem_eraseDups, List.mem_filter,
    decide_eq_true_eq, hasFinalStop, List.any_eq_true]
  by_cases hn : n = 0
  · subst hn
    by_cases final : ∃ stop ∈ t.stops, stop.index = 0
    · simp [final]
    · simp [final]
  · by_cases final : ∃ stop ∈ t.stops, stop.index = 0 <;> simp [final, hn]

/-- Puts `new` in the place of every `c`. -/
def substitute (c : Char) (new text : List Char) : List Char :=
  text.flatMap fun d => if d = c then new else [d]

/-- Backslashes have to be doubled first: the other two substitutions write new ones. -/
theorem escape_eq_substitute (text : List Char) :
    escape text =
      substitute '}' ['\\', '}'] (substitute '$' ['\\', '$'] (substitute '\\' ['\\', '\\'] text)) := by
  simp only [escape, substitute, List.flatMap_assoc]
  congr 1
  funext c
  by_cases backslash : c = '\\'
  · subst backslash
    decide
  · by_cases dollarSign : c = '$'
    · subst dollarSign
      decide
    · by_cases brace : c = '}'
      · subst brace
        decide
      · simp [isEscapable, backslash, dollarSign, brace]

/-- Reading what a tree prints gives back what the tree means: its text, its stops and names in
order, and each of its numbers once in the visiting order. Escaped text means itself, alone and as a
default. -/
theorem read_tree_print (tree : Tree) (h : tree.Writable) :
    (∃ t, read tree.print = .ok t ∧ t.render = tree.text ∧ t.stops = tree.stops ∧
      t.names = tree.names ∧ t.tabOrder.Pairwise Before ∧ t.tabOrder.Nodup ∧
      ∀ n, n ∈ t.tabOrder ↔ tree.Numbers n) ∧
    (∀ text, ∃ t, read (escape text) = .ok t ∧ t.render = text ∧ t.stops = [] ∧ t.names = []) ∧
    (∀ n text, (Nat.toDigits 10 n).length ≤ digitLimit →
      ∃ t, read (['$', '{'] ++ Nat.toDigits 10 n ++ [':'] ++ escape text ++ ['}']) = .ok t ∧
        t.render = text ∧ t.stops = [⟨n, text⟩] ∧ t.names = []) ∧
    ∀ text, escape text =
      substitute '}' ['\\', '}'] (substitute '$' ['\\', '$'] (substitute '\\' ['\\', '\\'] text)) := by
  refine ⟨?_, ?_, ?_, escape_eq_substitute⟩
  · refine ⟨tree.template, tree.read_print h, tree.render_template, tree.stops_template,
      tree.names_template, tabOrder_pairwise _, tabOrder_nodup _, ?_⟩
    intro n
    rw [mem_tabOrder, tree.stops_template, tree.mem_stops_iff]
  · intro text
    exact ⟨_, Tree.read_print (.literal text) trivial, Tree.render_template _, Tree.stops_template _,
      Tree.names_template _⟩
  · intro n text hn
    exact ⟨_, Tree.read_print (.filled (.index n) (.literal text)) ⟨hn, trivial⟩,
      Tree.render_template _, Tree.stops_template _, Tree.names_template _⟩

theorem read_tree_print_nested :
    ∃ t, read "$\x7b12:a\\\x7d\\$\\\\$\x7bX_1:$\x7b0\x7d\x7d\x7d$\x7b3\x7d".toList = .ok t ∧
      t.render = "a\x7d$\\X_1".toList ∧
      t.stops = [⟨0, []⟩, ⟨12, "a\x7d$\\X_1".toList⟩, ⟨3, []⟩] ∧ t.names = ["X_1".toList] ∧
      t.tabOrder.Pairwise Before ∧ ∀ n, n ∈ t.tabOrder ↔ n = 0 ∨ n = 3 ∨ n = 12 := by
  let inner : Tree := .filled (.name "X_1".toList) (.plain (.index 0))
  let tree : Tree :=
    .both (.filled (.index 12) (.both (.literal "a\x7d$\\".toList) inner)) (.plain (.index 3))
  obtain ⟨t, reads, text, stops, names, order, -, numbers⟩ := (read_tree_print tree (by decide)).1
  refine ⟨t, reads, text, stops, names, order, ?_⟩
  intro n
  rw [numbers n]
  simp only [tree, inner, Tree.Numbers, Head.index.injEq, reduceCtorEq, false_or]
  omega

end ScriptAssist.Template
