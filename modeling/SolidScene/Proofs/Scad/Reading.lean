import SolidScene.Proofs.Scad.Said

/-!
# Reading a statement tree back from its tokens

The tokens of a tree are read as the calls that the tree stands for, in front of any further
tokens. Each lemma asks for as much fuel as there are tokens, and for heads that have source: the
tokens of a tree at fault are not claimed to mean anything.
-/
namespace SolidScene.Scad

variable {α : Type} [Scalar α] [Numeral α]

/-- Entries that are read one by one are read as a list. The entry reader is only asked about
entries in front of a comma or the closing mark. -/
theorem listed?_intercalate {β : Type} {item? : List Token → Option (β × List Token)}
    {close : Char} (hclose : close ≠ ',') {tss : List (List Token)} {bs : List β}
    (h : List.Forall₂ (fun ts b => ∀ c ∈ [',', close], ∀ rest,
      item? (ts ++ .mark c :: rest) = some (b, .mark c :: rest)) tss bs) (hne : tss ≠ []) :
    ∀ n, tss.length ≤ n → ∀ rest,
      listed? item? close n ([Token.mark ','].intercalate tss ++ .mark close :: rest) =
        some (bs, rest) := by
  induction h with
  | nil => exact absurd rfl hne
  | @cons ts b tss bs hts htss ih =>
    intro n hn rest
    obtain ⟨m, rfl⟩ : ∃ m, n = m + 1 := ⟨n - 1, by simp at hn; omega⟩
    cases tss with
    | nil =>
      cases htss
      simp [listed?, hts close (by simp) rest, hclose]
    | cons us tss =>
      have hread := hts ',' (by simp) ([Token.mark ','].intercalate (us :: tss) ++
        .mark close :: rest)
      have hrest := ih (by simp) m (by simpa using hn) rest
      rw [List.intercalate_cons_cons]
      simp only [List.append_assoc, List.cons_append, List.nil_append, listed?, hread, if_true,
        hrest, Option.map_some]

theorem length_le_intercalate {tss : List (List Token)} {ts : List Token} (h : ts ∈ tss) :
    ts.length ≤ ([Token.mark ','].intercalate tss).length := by
  induction tss with
  | nil => cases h
  | cons us tss ih =>
    cases tss with
    | nil => simp at h; simp [h]
    | cons vs tss =>
      rw [List.intercalate_cons_cons]
      simp only [List.length_append]
      rcases List.mem_cons.mp h with rfl | h
      · omega
      · have := ih h
        omega

/-- There is a comma between any two entries, so a list has at most one entry more than tokens. -/
theorem length_le_intercalate_succ (tss : List (List Token)) :
    tss.length ≤ ([Token.mark ','].intercalate tss).length + 1 := by
  induction tss with
  | nil => simp
  | cons us tss ih =>
    cases tss with
    | nil => simp
    | cons vs tss =>
      rw [List.intercalate_cons_cons]
      simp only [List.length_append, List.length_cons] at ih ⊢
      omega

namespace Value

theorem isNumeral_numberText (hp : PlainNumerals α) {n : α} (h : Numeral.isFinite n = true) :
    isNumeral (numberText n) = true := by
  unfold numberText
  cases hz : n == 0 with
  | false => simpa using hp n h hz
  | true => rw [if_pos rfl]; decide

theorem datum?_tokens (hp : PlainNumerals α) (v : Value α) :
    ∀ {t}, v.source = .ok t → ∀ fuel, v.tokens.length ≤ fuel → ∀ rest,
      datum? fuel (v.tokens ++ rest) = some (v.datum, rest) := by
  induction v using Value.induction with
  | number n =>
    intro t h fuel hfuel rest
    obtain ⟨m, rfl⟩ : ∃ m, fuel = m + 1 := ⟨fuel - 1, by simp [tokens] at hfuel; omega⟩
    have hn := isNumeral_numberText hp (source_number.mp h).1
    simp [tokens, datum?, datum, hn]
  | text s =>
    intro t h fuel hfuel rest
    obtain ⟨m, rfl⟩ : ∃ m, fuel = m + 1 := ⟨fuel - 1, by simp [tokens] at hfuel; omega⟩
    simp [tokens, datum?, datum]
  | list items ih =>
    intro t h fuel hfuel rest
    obtain ⟨m, rfl⟩ : ∃ m, fuel = m + 1 := ⟨fuel - 1, by simp [tokens] at hfuel; omega⟩
    obtain ⟨hne, texts, htexts, -⟩ := source_list.mp h
    rw [tokens, tokensEach_eq_map] at *
    simp only [List.length_cons, List.length_append, List.length_nil] at hfuel
    have hread : List.Forall₂ (fun ts d => ∀ c ∈ [',', ']'], ∀ rest,
        datum? m (ts ++ .mark c :: rest) = some (d, .mark c :: rest))
        (items.map tokens) (items.map datum) := by
      rw [List.forall₂_map_left_iff, List.forall₂_map_right_iff, List.forall₂_same]
      intro v hv c _ rest
      obtain ⟨t, ht⟩ := source_of_mem htexts hv
      have hlen := length_le_intercalate (List.mem_map_of_mem (f := tokens) hv)
      exact ih v hv ht m (by omega) _
    have hcount := length_le_intercalate_succ (items.map tokens)
    have hlist := listed?_intercalate (by decide) hread (by simpa using hne)
      ([Token.mark ','].intercalate (items.map tokens) ++ .mark ']' :: rest).length
      (by simp only [List.length_append, List.length_cons]; omega) rest
    simp only [List.cons_append, List.append_assoc, List.nil_append, datum?, hlist,
      Option.map_some, datum, data_eq_map]

theorem argument?_positional (hp : PlainNumerals α) {v : Value α} {t : String}
    (h : v.source = .ok t) {fuel : Nat} (hfuel : v.tokens.length ≤ fuel) {c : Char} (hc : c ≠ '=')
    (rest : List Token) :
    argument? fuel (v.tokens ++ .mark c :: rest) = some ((none, v.datum), .mark c :: rest) := by
  have hread := datum?_tokens hp v h fuel hfuel (.mark c :: rest)
  -- a key would be followed by an equals sign, which no value starts with or stands before
  have hkey : ∀ key r, v.tokens ++ .mark c :: rest ≠ .atom key :: .mark '=' :: r := by
    intro key r he
    cases v <;> simp [tokens, hc] at he
  rw [argument?.eq_2 _ _ hkey, hread]
  rfl

end Value

theorem argument?_keyword (hp : PlainNumerals α) {key : String} (hkey : isName key = true)
    {v : Value α} {t : String} (h : v.source = .ok t) {fuel : Nat}
    (hfuel : v.tokens.length ≤ fuel) (rest : List Token) :
    argument? fuel (.atom key :: .mark '=' :: (v.tokens ++ rest)) =
      some ((some key, v.datum), rest) := by
  simp [argument?, hkey, Value.datum?_tokens hp v h fuel hfuel rest]

/-- An argument does not start with a closing parenthesis. -/
theorem arguments?_of_argument? {fuel : Nat} {ts : List Token} {r}
    (h : argument? fuel ts = some r) :
    arguments? fuel ts = listed? (argument? fuel) ')' ts.length ts := by
  refine arguments?.eq_2 _ _ fun rest he => ?_
  rw [he, argument?.eq_2 _ _ (by simp)] at h
  cases fuel <;> cases h

namespace Node

/-- The head of every node of the tree has source, and every name and key is a word. -/
def Readable (n : Node α) : Prop := (∀ m ∈ n.nodes, ∃ h, m.head = .ok h) ∧ n.WellNamed

theorem Readable.child {n c : Node α} (h : n.Readable) (hc : c ∈ n.children) : c.Readable :=
  ⟨(forall_nodes.mp h.1).2 c hc, (forall_nodes.mp h.2).2 c hc⟩

/-- The parameters of a node whose head has source have source themselves. -/
theorem parameter_source {n : Node α} {h : String} (hh : n.head = .ok h) :
    (∀ v ∈ n.parameters, ∃ t, v.source = .ok t) ∧
      ∀ k ∈ n.keywords, ∃ t, k.2.source = .ok t := by
  cases hname : n.name with
  | none =>
    obtain ⟨hps, hks, -⟩ := (head_of_unnamed hname).mp hh
    simp [hps, hks]
  | some name =>
    obtain ⟨-, ps, ks, hps, hks, -⟩ := (head_of_named hname).mp hh
    exact ⟨fun v hv => Value.source_of_mem hps hv, fun k hk => keyword_source_of_mem hks hk⟩

theorem argument?_argumentTokens (hp : PlainNumerals α) {n : Node α} {h : String}
    (hh : n.head = .ok h) (hkeys : ∀ k ∈ n.keywords, isName k.1 = true) {fuel : Nat}
    (hfuel : ∀ ts ∈ n.argumentTokens, ts.length ≤ fuel) :
    List.Forall₂ (fun ts a => ∀ c ∈ [',', ')'], ∀ rest,
      argument? fuel (ts ++ .mark c :: rest) = some (a, .mark c :: rest))
      n.argumentTokens n.arguments := by
  obtain ⟨hps, hks⟩ := parameter_source hh
  simp only [argumentTokens, List.forall_mem_append, List.forall_mem_map] at hfuel
  refine List.rel_append ?_ ?_
  · rw [List.forall₂_map_left_iff, List.forall₂_map_right_iff, List.forall₂_same]
    intro v hv c hc rest
    obtain ⟨t, ht⟩ := hps v hv
    have hne : c ≠ '=' := by rintro rfl; simp at hc
    exact Value.argument?_positional hp ht (hfuel.1 v hv) hne rest
  · rw [List.forall₂_map_left_iff, List.forall₂_map_right_iff, List.forall₂_same]
    intro k hk c _ rest
    obtain ⟨t, ht⟩ := hks k hk
    have hlen := hfuel.2 k hk
    simp only [List.length_cons] at hlen
    exact argument?_keyword hp (hkeys k hk) ht (by omega) _

/-- What stands in the parentheses of a head is read as the arguments of the call. -/
theorem arguments?_argumentTokens (hp : PlainNumerals α) {n : Node α} {h : String}
    (hh : n.head = .ok h) (hkeys : ∀ k ∈ n.keywords, isName k.1 = true) (fuel : Nat)
    (hfuel : ([Token.mark ','].intercalate n.argumentTokens).length ≤ fuel) (rest : List Token) :
    arguments? fuel ([Token.mark ','].intercalate n.argumentTokens ++ .mark ')' :: rest) =
      some (n.arguments, rest) := by
  have hread := argument?_argumentTokens hp hh hkeys
    fun ts hts => Nat.le_trans (length_le_intercalate hts) hfuel
  have hcount := length_le_intercalate_succ n.argumentTokens
  generalize n.argumentTokens = tss at *
  generalize n.arguments = args at *
  cases hread with
  | nil => rfl
  | @cons ts a tss args hts htss =>
    have hfirst : ∃ r, argument? fuel ([Token.mark ','].intercalate (ts :: tss) ++
        .mark ')' :: rest) = some r := by
      cases tss with
      | nil => exact ⟨_, by simpa using hts ')' (by simp) rest⟩
      | cons us tss =>
        rw [List.intercalate_cons_cons]
        simp only [List.append_assoc, List.cons_append, List.nil_append]
        exact ⟨_, hts ',' (by simp) _⟩
    obtain ⟨r, hr⟩ := hfirst
    rw [arguments?_of_argument? hr]
    exact listed?_intercalate (by decide) (.cons hts htss) (by simp) _
      (by simp only [List.length_append, List.length_cons] at hcount ⊢; omega) rest

theorem length_pos_of_statement? {fuel : Nat} {ts : List Token} {r}
    (h : statement? fuel ts = some r) : 0 < ts.length := by
  cases ts with
  | nil => cases fuel <;> cases h
  | cons t ts => simp

/-- A statement does not start with a closing brace, so a sequence goes on with it. -/
theorem sequence?_of_statement? {fuel : Nat} {ts rest : List Token} {said : List Statement}
    (h : statement? fuel ts = some (said, rest)) (n : Nat) :
    sequence? (statement? fuel) (n + 1) ts =
      (sequence? (statement? fuel) n rest).map fun r => (said ++ r.1, r.2) := by
  have hnil : ts ≠ [] := List.ne_nil_of_length_pos (length_pos_of_statement? h)
  have hbrace : ∀ r, ts ≠ .mark '\x7d' :: r := by
    rintro r rfl
    cases fuel <;> cases h
  rw [sequence?.eq_4 _ _ _ hnil hbrace, h]
  simp only [Option.bind_eq_bind, Option.bind_some]
  cases sequence? (statement? fuel) n rest <;> rfl

/-- The end of the source, or a closing brace. -/
def Closes (rest : List Token) : Prop := rest = [] ∨ ∃ r, rest = .mark '\x7d' :: r

theorem sequence?_closes {rest : List Token} (h : Closes rest) {statement?} (n : Nat) :
    sequence? statement? (n + 1) rest = some ([], rest) := by
  rcases h with rfl | ⟨r, rfl⟩ <;> rfl

/-- The tree is read as what it says, in front of any tokens. -/
def ReadsBack (simplify : Bool) (n : Node α) : Prop :=
  ∀ fuel, (n.tokens simplify).length ≤ fuel → ∀ rest,
    statement? fuel (n.tokens simplify ++ rest) = some (n.statements, rest)

theorem ReadsBack.length_pos {simplify : Bool} {n : Node α} (h : n.ReadsBack simplify) :
    0 < (n.tokens simplify).length := by
  have hread := h _ (Nat.le_refl _) []
  rw [List.append_nil] at hread
  exact length_pos_of_statement? hread

theorem sequence?_tokens {simplify : Bool} (ns : List (Node α))
    (h : ∀ n ∈ ns, n.ReadsBack simplify) (fuel : Nat)
    (hfuel : (ns.flatMap (tokens simplify)).length ≤ fuel) {k : Nat}
    (hk : (ns.flatMap (tokens simplify)).length < k) {rest : List Token} (hrest : Closes rest) :
    sequence? (statement? fuel) k (ns.flatMap (tokens simplify) ++ rest) =
      some (ns.flatMap statements, rest) := by
  induction ns generalizing k with
  | nil =>
    obtain ⟨m, rfl⟩ : ∃ m, k = m + 1 := ⟨k - 1, by omega⟩
    exact sequence?_closes hrest m
  | cons n ns ih =>
    obtain ⟨m, rfl⟩ : ∃ m, k = m + 1 := ⟨k - 1, by omega⟩
    have hn := h n List.mem_cons_self
    have hpos := hn.length_pos
    simp only [List.flatMap_cons, List.length_append] at hfuel hk ⊢
    have hfirst := hn fuel (by omega) (ns.flatMap (tokens simplify) ++ rest)
    have hothers := ih (fun m hm => h m (List.mem_cons_of_mem n hm)) (by omega) (k := m)
      (by omega)
    rw [List.append_assoc, sequence?_of_statement? hfirst, hothers]
    rfl

/-- What stands behind the head of a node is one statement, which says what the children say:
nothing for the empty statement, the same for a single child and for a block. -/
theorem statement?_bodyTokens {simplify : Bool} {n : Node α}
    (h : ∀ c ∈ n.children, c.ReadsBack simplify) {fuel : Nat}
    (hfuel : (n.bodyTokens simplify).length ≤ fuel) (rest : List Token) :
    statement? fuel (n.bodyTokens simplify ++ rest) =
      some (n.children.flatMap statements, rest) := by
  unfold bodyTokens at *
  split at hfuel
  · next hempty =>
    obtain ⟨m, rfl⟩ : ∃ m, fuel = m + 1 := ⟨fuel - 1, by simp at hfuel; omega⟩
    rw [if_pos hempty, List.isEmpty_iff.mp hempty]
    rfl
  · next hempty =>
    rw [if_neg hempty]
    split at hfuel
    · next hsingle =>
      rw [if_pos hsingle]
      simp only [Bool.and_eq_true, beq_iff_eq] at hsingle
      obtain ⟨c, hc⟩ := List.length_eq_one_iff.mp hsingle.2
      rw [hc] at h hfuel ⊢
      simp only [List.flatMap_cons, List.flatMap_nil, List.append_nil] at hfuel ⊢
      exact h c (by simp) fuel hfuel rest
    · next hblock =>
      rw [if_neg hblock]
      simp only [List.length_cons, List.length_append, List.length_nil] at hfuel
      obtain ⟨m, rfl⟩ : ∃ m, fuel = m + 1 := ⟨fuel - 1, by omega⟩
      have hcloses : Closes (.mark '\x7d' :: rest) := .inr ⟨rest, rfl⟩
      have hread := sequence?_tokens n.children h m (by omega)
        (k := (n.children.flatMap (tokens simplify) ++ .mark '\x7d' :: rest).length + 1)
        (by simp only [List.length_append, List.length_cons]; omega) hcloses
      simp only [List.cons_append, List.append_assoc, List.nil_append, statement?, hread]

/-- A readable tree is read back as its calls, whether or not single children are simplified. -/
theorem readsBack (hp : PlainNumerals α) (simplify : Bool) (n : Node α) (h : n.Readable) :
    n.ReadsBack simplify := by
  induction n using Node.induction with
  | step n ih =>
    have hbody : ∀ m, (n.bodyTokens simplify).length ≤ m → ∀ rest, _ :=
      fun m hm => statement?_bodyTokens (fun c hc => ih c hc (h.child hc)) hm
    obtain ⟨head, hhead⟩ := (forall_nodes.mp h.1).1
    obtain ⟨hword, hkeys⟩ := (forall_nodes.mp h.2).1
    intro fuel hfuel rest
    rw [tokens_eq] at hfuel ⊢
    cases hname : n.name with
    | none =>
      simp only [headTokens, hname, List.nil_append] at hfuel ⊢
      rw [hbody fuel hfuel rest, statements_of_unnamed hname]
    | some name =>
      simp only [headTokens, hname, List.length_cons, List.length_append, List.length_nil] at hfuel
      obtain ⟨m, rfl⟩ : ∃ m, fuel = m + 1 := ⟨fuel - 1, by omega⟩
      have hargs := arguments?_argumentTokens hp hhead hkeys m (by omega)
        (n.bodyTokens simplify ++ rest)
      have hgoverned := hbody m (by omega) rest
      simp only [headTokens, hname, List.cons_append, List.append_assoc, List.nil_append,
        statement?, hword name hname, if_true, hargs, Option.bind_eq_bind, Option.bind_some,
        hgoverned, statements_of_named hname]
      rfl

end Node

end SolidScene.Scad
