import SolidScene.Proofs.Decimal.Plain
import SolidScene.Proofs.Lines
import SolidScene.Proofs.Scad.Reading

/-!
# Scene source says what its tree says

The text that a layout writes scans as the tokens of the tree, line by line: a line may stand in
front of whatever separates lines, blanks in front of it do not matter, and lines of comments have
no tokens. Together with the reader of tokens this shows that emission is faithful under every
layout. It is not shown that emission succeeds.
-/
namespace SolidScene.Scad

variable {α : Type}

theorem atom_of_isNumeral {s : String} (h : isNumeral s = true) :
    s.toList ≠ [] ∧ ∀ c ∈ s.toList, isAtomChar c = true := by
  simp only [isNumeral, Bool.and_eq_true, Bool.not_eq_true', List.isEmpty_eq_false_iff,
    List.all_eq_true] at h
  exact ⟨h.1, fun c hc => by simp [isAtomChar, h.2 c hc]⟩

theorem atom_of_isName {s : String} (h : isName s = true) :
    s.toList ≠ [] ∧ ∀ c ∈ s.toList, isAtomChar c = true := by
  simp only [isName, Bool.and_eq_true, Bool.not_eq_true', List.isEmpty_eq_false_iff,
    List.all_eq_true] at h
  exact ⟨h.1, fun c hc => by simp [isAtomChar, h.2 c hc]⟩

theorem scans_word {s : String} (h : s.toList ≠ [] ∧ ∀ c ∈ s.toList, isAtomChar c = true) :
    Scans Breaks s.toList [.atom s] := by
  simpa using scans_atom h.1 h.2

/-- A piece in front of another piece that starts with no character of a word. -/
theorem scans_then {s u : List Char} {c : Char} {ts us : List Token} {f : List Char → Prop}
    (hs : Scans Breaks s ts) (hc : isAtomChar c = false) (hu : Scans f (c :: u) us) :
    Scans f (s ++ c :: u) (ts ++ us) :=
  scans_append hs hu fun rest _ => breaks_cons hc (u ++ rest)

theorem scans_mark_cons {f : List Char → Prop} {c : Char} (hc : c ∈ marks) {s : List Char}
    {ts : List Token} (hs : Scans f s ts) : Scans f (c :: s) (.mark c :: ts) :=
  scans_append (scans_mark (fun _ => True) hc) hs fun _ _ => trivial

theorem scans_blank_cons {f : List Char → Prop} {c : Char} (hc : isBlank c = true)
    {s : List Char} {ts : List Token} (hs : Scans f s ts) : Scans f (c :: s) ts :=
  scans_append (scans_blank (fun _ => True) (s := [c]) (by simpa using hc)) hs fun _ _ => trivial

/-- Pieces that are joined by a comma and a space scan as their tokens, joined by commas. -/
theorem scans_commas {texts : List (List Char)} {tss : List (List Token)}
    (h : List.Forall₂ (Scans Breaks) texts tss) :
    Scans Breaks ([',', ' '].intercalate texts) ([Token.mark ','].intercalate tss) := by
  induction h with
  | nil => exact scans_nil Breaks
  | @cons t ts texts tss ht htexts ih =>
    cases htexts with
    | nil => simpa using ht
    | cons hu husual =>
      rw [List.intercalate_cons_cons, List.intercalate_cons_cons, List.append_assoc,
        List.append_assoc]
      have hspace := scans_blank_cons (c := ' ') (by decide) ih
      exact scans_then ht (by decide) (scans_mark_cons (c := ',') (by decide) hspace)

/-- Each line scans as a part of the tokens, in front of whatever separates lines. -/
def LinesScan (follow : List Char → Prop) (lines : List String) (ts : List Token) : Prop :=
  ∃ tss, List.Forall₂ (fun l ts => Scans follow l.toList ts) lines tss ∧ tss.flatten = ts

section Lines

variable {follow : List Char → Prop}

theorem linesScan_nil : LinesScan follow [] [] := ⟨[], .nil, rfl⟩

theorem linesScan_single {l : String} {ts : List Token} (h : Scans follow l.toList ts) :
    LinesScan follow [l] ts := ⟨[ts], .cons h .nil, by simp⟩

theorem LinesScan.append {ls ms : List String} {ts us : List Token}
    (hl : LinesScan follow ls ts) (hm : LinesScan follow ms us) :
    LinesScan follow (ls ++ ms) (ts ++ us) := by
  obtain ⟨tss, htss, rfl⟩ := hl
  obtain ⟨uss, huss, rfl⟩ := hm
  exact ⟨tss ++ uss, List.rel_append htss huss, List.flatten_append⟩

theorem LinesScan.indented {ls : List String} {ts : List Token} (h : LinesScan follow ls ts)
    {blank : String} (hblank : ∀ c ∈ blank.toList, isBlank c = true) :
    LinesScan follow (ls.map (blank ++ ·)) ts := by
  obtain ⟨tss, htss, rfl⟩ := h
  refine ⟨tss, ?_, rfl⟩
  rw [List.forall₂_map_left_iff]
  refine htss.imp fun l ts hl => ?_
  rw [String.toList_append]
  exact scans_append (scans_blank (fun _ => True) hblank) hl fun _ _ => trivial

/-- Lines that are joined by a blank that may follow them scan as their tokens together. -/
theorem LinesScan.join {ls : List String} {ts : List Token} (h : LinesScan follow ls ts)
    {c : Char} (hc : isBlank c = true) (hfollow : ∀ rest, follow (c :: rest)) :
    Scans follow ((String.singleton c).intercalate ls).toList ts := by
  obtain ⟨tss, htss, rfl⟩ := h
  rw [String.toList_intercalate, String.toList_singleton]
  induction htss with
  | nil => exact scans_nil follow
  | @cons l ts ls tss hl hls ih =>
    cases hls with
    | nil => simpa using hl
    | cons hm hms =>
      rw [List.map_cons, List.map_cons, List.intercalate_cons_cons, ← List.map_cons,
        List.append_assoc, List.flatten_cons]
      exact scans_append hl (scans_blank_cons hc ih) fun _ _ => hfollow _

end Lines

namespace Node

/-- The lines of a comment have no tokens, if they end before anything else comes. -/
theorem linesScan_remarks {follow : List Char → Prop}
    (hfollow : ∀ rest, follow rest → EndsLine rest) (n : Node α) :
    LinesScan follow n.remarks [] := by
  unfold remarks
  cases n.comment with
  | none => exact linesScan_nil
  | some comment =>
    refine ⟨(comment.toList.splitOn '\n').map fun _ => [], ?_, by simp⟩
    rw [List.forall₂_map_left_iff, List.forall₂_map_right_iff, List.forall₂_same]
    intro line hline
    simpa using (scans_comment (not_mem_of_mem_splitOn line hline)).mono hfollow

/-- The head of a node and what opens or ends its body, on one line. -/
theorem scans_opening {n : Node α} {head : String} {ts : List Token} (simplify : Bool)
    (h : Scans Breaks head.toList ts) :
    Scans Breaks (head ++ n.opening simplify head).toList
      (ts ++ if n.children.isEmpty then [.mark ';']
        else if simplify && n.children.length == 1 then [] else [.mark '\x7b']) := by
  have hbrace := scans_mark Breaks (c := '\x7b') (by decide)
  rw [String.toList_append, opening]
  split
  · exact scans_then h (by decide) (scans_mark Breaks (by decide))
  · split
    · simpa using h
    · split
      · exact scans_then h (by decide) hbrace
      · exact scans_then h (by decide) (scans_blank_cons (by decide) hbrace)

theorem linesScan_closing {follow : List Char → Prop} (n : Node α) (simplify : Bool) :
    LinesScan follow (n.closing simplify)
      (if n.children.isEmpty || (simplify && n.children.length == 1) then []
        else [.mark '\x7d']) := by
  unfold closing
  split
  · exact linesScan_nil
  · exact linesScan_single (scans_mark follow (c := '\x7d') (by decide))

end Node

variable [Scalar α] [Numeral α]

namespace Value

theorem scans_source (hp : PlainNumerals α) (v : Value α) :
    ∀ {t}, v.source = .ok t → Scans Breaks t.toList v.tokens := by
  induction v using Value.induction with
  | number n =>
    intro t h
    obtain ⟨hfinite, rfl⟩ := source_number.mp h
    exact scans_word (atom_of_isNumeral (isNumeral_numberText hp hfinite))
  | text s =>
    intro t h
    cases h
    exact scans_quoted Breaks s
  | list items ih =>
    intro t h
    obtain ⟨-, texts, htexts, rfl⟩ := source_list.mp h
    have hitems : List.Forall₂ (Scans Breaks) (texts.map String.toList) (items.map tokens) :=
      related_map (sources_ok.mp htexts) fun v hv t ht => ih v hv ht
    have hinside := scans_then (scans_commas hitems) (by decide)
      (scans_mark Breaks (c := ']') (by decide))
    have hlist := scans_mark_cons (c := '[') (by decide) hinside
    simpa [tokens, tokensEach_eq_map] using hlist

end Value

namespace Node

theorem scans_argument (hp : PlainNumerals α) {key : String} (hkey : isName key = true)
    {v : Value α} {t : String} (h : v.source = .ok t) :
    Scans Breaks (key ++ " = " ++ t).toList (.atom key :: .mark '=' :: v.tokens) := by
  have hvalue := scans_blank_cons (c := ' ') (by decide) (v.scans_source hp h)
  have hequals := scans_mark_cons (c := '=') (by decide) hvalue
  simpa using scans_then (scans_word (atom_of_isName hkey)) (by decide)
    (scans_blank_cons (c := ' ') (by decide) hequals)

theorem scans_head (hp : PlainNumerals α) {n : Node α} {h : String} (hh : n.head = .ok h)
    (hword : ∀ name ∈ n.name, isName name = true) (hkeys : ∀ k ∈ n.keywords, isName k.1 = true) :
    Scans Breaks h.toList n.headTokens := by
  cases hname : n.name with
  | none =>
    obtain ⟨-, -, rfl⟩ := (head_of_unnamed hname).mp hh
    simpa [headTokens, hname] using scans_nil Breaks
  | some name =>
    obtain ⟨-, ps, ks, hps, hks, rfl⟩ := (head_of_named hname).mp hh
    have hpositional : List.Forall₂ (Scans Breaks) (ps.map String.toList)
        (n.parameters.map Value.tokens) :=
      related_map (Value.sources_ok.mp hps) fun v _ t ht => v.scans_source hp ht
    have hkeyword : List.Forall₂ (Scans Breaks) (ks.map String.toList)
        (n.keywords.map fun k => .atom k.1 :: .mark '=' :: k.2.tokens) := by
      refine related_map (keywordSources_ok.mp hks) ?_
      rintro k hk _ ⟨t, ht, rfl⟩
      exact scans_argument hp (hkeys k hk) ht
    have hinside := scans_then (scans_commas (List.rel_append hpositional hkeyword)) (by decide)
      (scans_mark Breaks (c := ')') (by decide))
    have hcall := scans_then (scans_word (atom_of_isName (hword name hname))) (by decide)
      (scans_mark_cons (c := '(') (by decide) hinside)
    simpa [headTokens, hname, argumentTokens] using hcall

theorem bodyTokens_eq (n : Node α) (simplify : Bool) :
    n.bodyTokens simplify =
      (if n.children.isEmpty then [.mark ';']
        else if simplify && n.children.length == 1 then [] else [.mark '\x7b']) ++
      n.children.flatMap (tokens simplify) ++
      (if n.children.isEmpty || (simplify && n.children.length == 1) then []
        else [.mark '\x7d']) := by
  unfold bodyTokens
  cases hempty : n.children.isEmpty with
  | true => simp [List.isEmpty_iff.mp hempty]
  | false => cases hsingle : simplify && n.children.length == 1 <;> simp

theorem linesScan_children {follow : List Char → Prop} {indent : String}
    {simplify comments : Bool} {cs : List (Node α)}
    (h : ∀ c ∈ cs, ∀ ls, c.lines indent "" simplify comments = .ok ls →
      LinesScan follow ls (c.tokens simplify)) {inner : List String}
    (hinner : childLines indent simplify comments cs = .ok inner) :
    LinesScan follow inner (cs.flatMap (tokens simplify)) := by
  obtain ⟨parts, hparts, rfl⟩ := childLines_ok.mp hinner
  induction hparts with
  | nil => exact linesScan_nil
  | cons hfirst hrest ih =>
    rw [List.forall_mem_cons] at h
    exact (h.1 _ hfirst).append (ih h.2 (childLines_ok.mpr ⟨_, hrest, rfl⟩))

/-- The lines of a tree scan as its tokens. Comments may only be written where they end a line. -/
theorem linesScan_lines (hp : PlainNumerals α) {follow : List Char → Prop}
    (hbreaks : ∀ rest, follow rest → Breaks rest) {indent : String}
    (hindent : ∀ c ∈ indent.toList, isBlank c = true) {simplify comments : Bool}
    (hcomments : comments = true → ∀ rest, follow rest → EndsLine rest) (n : Node α) :
    n.WellNamed → ∀ {top : String}, (∀ c ∈ top.toList, isBlank c = true) → ∀ {ls},
      n.lines indent top simplify comments = .ok ls → LinesScan follow ls (n.tokens simplify) := by
  induction n using Node.induction with
  | step n ih =>
    intro hnames top htop ls hls
    obtain ⟨head, inner, hhead, hinner, rfl⟩ := lines_ok.mp hls
    obtain ⟨⟨hword, hkeys⟩, hbelow⟩ := forall_nodes.mp hnames
    have hremarks : LinesScan follow (if comments then n.remarks else []) [] := by
      split
      · next h => exact linesScan_remarks (hcomments h) n
      · exact linesScan_nil
    have hline := linesScan_single
      ((scans_opening (n := n) simplify (scans_head hp hhead hword hkeys)).mono hbreaks)
    have hchildren : LinesScan follow inner (n.children.flatMap (tokens simplify)) :=
      linesScan_children (fun c hc ls hls => ih c hc (hbelow c hc) (by simp) hls) hinner
    have hinside : ∀ c ∈ (top ++ indent).toList, isBlank c = true := by
      rw [String.toList_append]
      exact List.forall_mem_append.mpr ⟨htop, hindent⟩
    have hall := (((hremarks.indented htop).append (hline.indented htop)).append
      (hchildren.indented hinside)).append ((linesScan_closing n simplify).indented htop)
    rw [tokens_eq, bodyTokens_eq]
    simpa only [List.nil_append, List.append_assoc, List.map_cons, List.map_nil] using hall

/-- Lines are only written when every head of the tree has source. -/
theorem heads_of_lines {indent : String} {simplify comments : Bool} (n : Node α) :
    ∀ {top ls}, n.lines indent top simplify comments = .ok ls →
      ∀ m ∈ n.nodes, ∃ h, m.head = .ok h := by
  induction n using Node.induction with
  | step n ih =>
    intro top ls hls
    obtain ⟨head, inner, hhead, hinner, -⟩ := lines_ok.mp hls
    obtain ⟨parts, hparts, -⟩ := childLines_ok.mp hinner
    refine forall_nodes.mpr ⟨⟨head, hhead⟩, fun c hc => ?_⟩
    obtain ⟨part, hpart⟩ := related_of_mem hparts hc
    exact ih c hc hpart

/-- Source that scans as the tokens of a readable tree says what the tree says. -/
theorem program?_of_scans (hp : PlainNumerals α) {follow : List Char → Prop} (hend : follow [])
    {n : Node α} (hn : n.Readable) {simplify : Bool} {text : String}
    (htext : Scans follow text.toList (n.tokens simplify)) :
    program? text = some n.statements := by
  have htokens : tokens? text.toList = some (n.tokens simplify) := by
    simpa [tokens?] using htext [] hend
  have hread := sequence?_tokens [n] (by simpa using readsBack hp simplify n hn)
    (n.tokens simplify).length (by simp) (k := (n.tokens simplify).length + 1) (by simp) (.inl rfl)
  simp only [List.flatMap_cons, List.flatMap_nil, List.append_nil] at hread
  simp [program?, htokens, hread]

end Node

/-- Indentation of spaces and tabs only. -/
def Layout.IsBlank (layout : Layout) : Prop :=
  ∀ c ∈ layout.indent.toList ++ layout.topIndent.toList, c = ' ' ∨ c = '\t'

theorem Layout.IsBlank.parts {layout : Layout} (h : layout.IsBlank) :
    (∀ c ∈ layout.indent.toList, isBlank c = true) ∧
      ∀ c ∈ layout.topIndent.toList, isBlank c = true := by
  refine List.forall_mem_append.mp fun c hc => ?_
  rcases h c hc with rfl | rfl <;> decide

namespace Node

/-- Emission is faithful under every layout: what is emitted is read back as the calls that the
tree stands for, whatever its comments, and however it is indented, joined or simplified. -/
theorem program?_code (hp : PlainNumerals α) {n : Node α} (hn : n.WellNamed) {layout : Layout}
    (hlayout : layout.IsBlank) {text : String} (h : n.code layout = .ok text) :
    program? text = some n.statements := by
  obtain ⟨hindent, htop⟩ := hlayout.parts
  have hcode := code_ok.mp h
  split at hcode
  · obtain ⟨ls, hls, rfl⟩ := hcode
    have hscan : LinesScan Breaks ls (n.tokens layout.simplify) :=
      linesScan_lines hp (fun _ hrest => hrest) (by simp) (by simp) n hn (by simp) hls
    exact program?_of_scans hp (by simp [Breaks]) ⟨heads_of_lines n hls, hn⟩
      (hscan.join (c := ' ') (by decide) (breaks_cons (by decide)))
  · obtain ⟨ls, hls, rfl⟩ := hcode
    have hscan : LinesScan EndsLine ls (n.tokens layout.simplify) :=
      linesScan_lines hp (fun _ hrest => hrest.breaks) hindent (fun _ _ hrest => hrest) n hn htop
        hls
    exact program?_of_scans hp (by simp [EndsLine]) ⟨heads_of_lines n hls, hn⟩
      (hscan.join (c := '\n') (by decide) (by simp [EndsLine]))

/-- A moved label: quotes, a brace and a backslash in its text, an end of line in its comment, and
a group without a name below it. -/
def label : Node Float :=
  (((call "translate").param (.ofVec ⟨1.5, -0.0, 20⟩)).child
    ((((call "text").param (.text "\x7b\"a\\")).keyword "size" (.number 0.1)).adopt
      [group [call "cube", empty], call "$fn"])).commented "upper \x7d\n\"label"

def labelSource : String :=
  "\t// upper \x7d\n\t// \"label\n\ttranslate([1.5, 0, 20])\n" ++
    "\t  text(\"\x7b\\\"a\\\\\", size = 0.1) \x7b\n" ++
    "\t    \x7b\n\t      cube();\n\t      ;\n\t    \x7d\n\t    $fn();\n\t  \x7d"

theorem program?_code_label :
    label.code ⟨"  ", "\t", false, true, true⟩ = .ok labelSource ∧
      program? labelSource = some [.call "translate"
        [(none, .list [.number "1.5", .number "0", .number "20"])]
        [.call "text" [(none, .text "\x7b\"a\\"), (some "size", .number "0.1")]
          [.call "cube" [] [], .call "$fn" [] []]]] := by
  have hlayout : Layout.IsBlank ⟨"  ", "\t", false, true, true⟩ := by
    simp [Layout.IsBlank]
  have hnames : label.WellNamed := by
    unfold WellNamed
    decide
  exact ⟨rfl, program?_code plainNumerals_double hnames hlayout rfl⟩

end Node

end SolidScene.Scad
