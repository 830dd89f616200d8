import ScriptAssist.Proofs.Template.Grammar

namespace ScriptAssist.Template

namespace Head

/-- What a placeholder shows is its default, or a name in the place of an empty one. -/
theorem infix_shown (head : Head) {part default : List Char} (h : part <:+: default) :
    part <:+: head.shown default := by
  cases head with
  | index n => exact h
  | name id =>
    rw [shown]
    split
    · case isTrue empty =>
      have none : default = [] := List.isEmpty_iff.1 empty
      have part_none : part = [] := by
        rw [none] at h
        exact List.infix_nil.1 h
      rw [part_none]
      exact List.nil_infix
    · exact h

theorem default_of_mem_stops {head : Head} {default : List Char} {stop : Stop}
    (h : stop ∈ head.stops default) : stop.default = default := by
  cases head with
  | index n =>
    have same : stop = ⟨n, default⟩ := List.mem_singleton.1 h
    rw [same]
  | name id => simp [stops] at h

end Head

/-- The default of a stop is shown in one piece, whatever placeholders it stands in. -/
theorem default_infix_render (t : Template) {stop : Stop} (h : stop ∈ t.stops) :
    stop.default <:+: t.render := by
  -- A placeholder without a default records an empty one.
  have bare {head : Head} (hstop : stop ∈ head.stops []) (text : List Char) :
      stop.default <:+: text := by
    rw [Head.default_of_mem_stops hstop]
    exact List.nil_infix
  have later {first rest : List Char} (inside : stop.default <:+: rest) :
      stop.default <:+: first ++ rest := by
    apply inside.trans
    exact (List.suffix_append first rest).isInfix
  induction t with
  | done => simp [stops] at h
  | char c rest ih =>
    have behind := ih h
    exact behind.trans (List.suffix_cons c rest.render).isInfix
  | bare head rest ih | closed head rest ih =>
    rcases List.mem_append.1 h with here | behind
    · exact bare here _
    · exact later (ih behind)
  | filled head default rest default_ih ih =>
    have shown {part : List Char} (inside : part <:+: default.render) :
        part <:+: (filled head default rest).render := by
      apply (head.infix_shown inside).trans
      exact (List.prefix_append _ rest.render).isInfix
    rcases List.mem_append.1 h with front | behind
    · rcases List.mem_append.1 front with inner | here
      · exact shown (default_ih inner)
      · have whole : stop.default = default.render := Head.default_of_mem_stops here
        rw [whole]
        exact shown List.infix_rfl
    · exact later (ih behind)

/-- What a placeholder shows is written in it: the default, or the name in front of it. -/
theorem Spelling.shown_sublist (s : Spelling) {default spelled : List Char}
    (h : default.Sublist spelled) : (s.head.shown default).Sublist (s.text ++ spelled) := by
  have kept : default.Sublist (s.text ++ spelled) :=
    h.trans (List.sublist_append_right s.text spelled)
  cases s with
  | digits run => exact kept
  | name id =>
    rw [Spelling.head, Head.shown]
    split
    · exact List.sublist_append_left id spelled
    · exact kept

theorem Derivation.render_sublist (d : Derivation) : d.template.render.Sublist d.spell := by
  have alone (s : Spelling) : (s.head.shown []).Sublist s.text := by
    have shown := s.shown_sublist (List.Sublist.refl [])
    rw [List.append_nil] at shown
    exact shown
  induction d with
  | done => exact List.Sublist.refl []
  | char c rest ih => exact ih.cons_cons c
  | escaped c rest ih => exact (ih.cons_cons c).cons '\\'
  | backslash rest ih => exact ih.cons_cons '\\'
  | dollar rest ih => exact ih.cons_cons '$'
  | bare head rest ih => exact ((alone head).append ih).cons '$'
  | closed head rest ih => exact (((alone head).append (ih.cons '}')).cons '{').cons '$'
  | filled head default rest default_ih ih =>
    have shown := head.shown_sublist (default_ih.cons ':')
    have whole := shown.append (ih.cons '}')
    rw [List.append_assoc, List.cons_append] at whole
    exact (whole.cons '{').cons '$'

/-- The preview invents and reorders nothing: the rendered text is left of the written one when some
of its characters are struck out, and the default of every stop stands in it in one piece. -/
theorem render_of_written (text : List Char) (t : Template) (h : read text = .ok t) :
    t.render.Sublist text ∧ t.render.length ≤ text.length ∧
      ∀ stop ∈ t.stops, stop.default <:+: t.render := by
  obtain ⟨d, ⟨spelled, -⟩, template⟩ := read_eq_ok_iff.1 h
  have kept : t.render.Sublist text := by
    rw [← spelled, ← template]
    exact d.render_sublist
  exact ⟨kept, kept.length_le, fun stop hstop => t.default_infix_render hstop⟩

/-- A stop in the default of a name that shows itself, and one within the default of another. -/
theorem render_of_written_nested :
    let text := "$\x7bN:$\x7b1:\x7d\x7d$\x7b2:\\$$\x7b3:x\x7dy\x7d".toList
    ∃ t, read text = .ok t ∧ t.render = "N$xy".toList ∧
      t.stops = [⟨1, []⟩, ⟨3, ['x']⟩, ⟨2, "$xy".toList⟩] ∧ "N$xy".toList.Sublist text ∧
      ['x'] <:+: "N$xy".toList := by
  intro text
  let t : Template :=
    .filled (.name ['N']) (.filled (.index 1) .done .done)
      (.filled (.index 2) (.char '$' (.filled (.index 3) (.char 'x' .done) (.char 'y' .done))) .done)
  have reads : read text = .ok t := by decide +kernel
  obtain ⟨kept, -, pieces⟩ := render_of_written text t reads
  have inner : (⟨3, ['x']⟩ : Stop) ∈ t.stops := by decide
  exact ⟨t, reads, rfl, rfl, kept, pieces _ inner⟩

end ScriptAssist.Template
