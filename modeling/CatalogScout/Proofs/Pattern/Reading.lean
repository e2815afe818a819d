import CatalogScout.Pattern.Star

/-!
Reading patterns that are made of ordinary characters and starred dots.

The reader works token by token on a cursor, so reading is followed by one equation for each kind
of token: it takes the token off the text in front of the cursor and puts a part in front of the
parts that were read.  Everything else that the cursor knows stays as it was.
-/

namespace CatalogScout
namespace Pattern

open Text

namespace Reader

/-! ## Single steps of the cursor -/

theorem bind_of_ok {α β : Type} {x : Reader α} {s s' : Cursor} {a : α} (h : x s = .ok (a, s'))
    (rest : α → Reader β) : (x >>= rest) s = rest a s' := by
  show StateT.bind x rest s = _
  simp only [StateT.bind, h]
  rfl

theorem get_bind {α : Type} (rest : Cursor → Reader α) (s : Cursor) :
    (get >>= rest) s = rest s s := rfl

theorem peek_eq (s : Cursor) : peek s = .ok (tokenOf s.rest, s) := rfl

theorem tokenOf_cons {c : Char} (h : c ≠ '\\') (r : List Char) :
    tokenOf (c :: r) = some (.plain c) := by
  unfold tokenOf
  split
  · next heq => exact absurd (List.cons.inj heq).1 h
  · next heq =>
    cases heq
    rfl
  · next heq => cases heq

theorem moveTo_eq {r : List Char} (h : r ≠ ['\\']) (s : Cursor) :
    moveTo r s = .ok ((), { s with rest := r }) := by
  unfold moveTo
  rw [if_neg h]
  rfl

theorem next_plain {c : Char} {r : List Char} {s : Cursor} (hs : s.rest = c :: r)
    (hc : c ≠ '\\') (hr : r ≠ ['\\']) :
    next s = .ok (some (.plain c), { s with rest := r }) := by
  have hmove : moveTo ((c :: r).drop (Token.plain c).text.length) s
      = .ok ((), { s with rest := r }) := moveTo_eq hr s
  unfold next
  rw [get_bind]
  simp only [hs, tokenOf_cons hc]
  exact bind_of_ok hmove _

theorem accept_other {c : Char} {s : Cursor} (h : tokenOf s.rest ≠ some (.plain c)) :
    accept c s = .ok (false, s) := by
  unfold accept
  rw [bind_of_ok (peek_eq s), if_neg h]
  rfl

theorem position_eq (s : Cursor) : position s = .ok (s.size - s.rest.length, s) := rfl

/-! ## Single steps of a sequence -/

/-- The characters that mean something else than themselves. -/
def special : List Char :=
  ['\\', '[', '.', '^', '$', '(', ')', '|', '*', '+', '?', '\x7b']

theorem bounds?_of_ordinary {c : Char} (h : c ∉ special) (s : Cursor) :
    bounds? c s = .ok (none, s) := by
  unfold bounds?
  split
  · exact absurd (by decide) h
  · exact absurd (by decide) h
  · exact absurd (by decide) h
  · exact absurd (by decide) h
  · rfl

section Sequence

variable {n : Nat} {mode : Mode} {first : Bool} {parts : List Piece} {s : Cursor}
  {c : Char} {r : List Char}

theorem sequence_end [CharacterNames] (hs : s.rest = []) :
    sequence (n + 1) mode first parts s = .ok (Piece.dissolve parts.reverse, s) := by
  rw [sequence, bind_of_ok (peek_eq s), hs]
  rfl

/-- A character that stands for itself. -/
theorem sequence_ordinary [CharacterNames] (hv : mode.verbose = false) (hs : s.rest = c :: r)
    (hc : c ∉ special) (hr : r ≠ ['\\']) :
    sequence (n + 1) mode first parts s
      = sequence n mode first (.char (.literal c.toNat) :: parts) { s with rest := r } := by
  have hbounds := bounds?_of_ordinary hc { s with rest := r }
  simp only [special, List.mem_cons, List.not_mem_nil, or_false, not_or] at hc
  obtain ⟨hslash, hset, hdot, hstart, hend, hopen, hclose, hbar, -⟩ := hc
  rw [sequence, bind_of_ok (peek_eq s), hs, tokenOf_cons hslash]
  simp only [Token.plain.injEq, hbar, hclose, decide_false, Bool.or_self, Bool.false_eq_true,
    if_false, hv, Bool.false_and]
  rw [bind_of_ok (next_plain hs hslash hr)]
  rw [bind_of_ok (position_eq _), bind_of_ok hbounds]

theorem sequence_dot [CharacterNames] (hv : mode.verbose = false) (hs : s.rest = '.' :: r)
    (hr : r ≠ ['\\']) :
    sequence (n + 1) mode first parts s
      = sequence n mode first (.char .any :: parts) { s with rest := r } := by
  rw [sequence, bind_of_ok (peek_eq s), hs]
  show (next >>= fun _ => _) s = _
  rw [bind_of_ok (next_plain hs (by decide) hr), hv]
  rfl

/-- The part that a starred dot is read as. -/
def anyRow (mode : Mode) : Piece :=
  .repeated (.repeated .greedy 0 none (.seq (.char mode .any) .empty))
    ((Piece.widthOf [.char .any]).times 0 none)

theorem greedOfSuffix_eq (hopt : tokenOf s.rest ≠ some (.plain '?'))
    (hplus : tokenOf s.rest ≠ some (.plain '+')) : greedOfSuffix s = .ok (.greedy, s) := by
  rw [greedOfSuffix, bind_of_ok (accept_other hopt)]
  show (accept '+' >>= fun _ => _) s = _
  rw [bind_of_ok (accept_other hplus)]
  rfl

theorem repeatLast_dot (hopt : tokenOf s.rest ≠ some (.plain '?'))
    (hplus : tokenOf s.rest ≠ some (.plain '+')) (place : Nat) :
    repeatLast mode place ⟨0, none⟩ (.char .any :: parts) s = .ok (anyRow mode :: parts, s) := by
  unfold repeatLast
  exact bind_of_ok (greedOfSuffix_eq hopt hplus) _

/-- A star behind a dot repeats the dot, if no suffix of the star follows. -/
theorem sequence_star [CharacterNames] (hv : mode.verbose = false) (hs : s.rest = '*' :: r)
    (hr : r ≠ ['\\']) (hopt : tokenOf r ≠ some (.plain '?'))
    (hplus : tokenOf r ≠ some (.plain '+')) :
    sequence (n + 1) mode first (.char .any :: parts) s
      = sequence n mode first (anyRow mode :: parts) { s with rest := r } := by
  rw [sequence, bind_of_ok (peek_eq s), hs]
  show (next >>= fun _ => _) s = _
  rw [bind_of_ok (next_plain hs (by decide) hr), hv]
  show (position >>= fun _ => _) _ = _
  rw [bind_of_ok (position_eq _)]
  exact bind_of_ok (repeatLast_dot hopt hplus _) _

end Sequence

/-! ## Texts whose only special characters are stars -/

def Tame (g : List Char) : Prop := ∀ c ∈ g, c = '*' ∨ c ∉ special

theorem Tame.tail {c : Char} {g : List Char} (h : Tame (c :: g)) : Tame g :=
  fun d hd => h d (List.mem_cons_of_mem c hd)

theorem starred_cons_star (g : List Char) : starred ('*' :: g) = '.' :: '*' :: starred g := rfl

theorem starred_cons {c : Char} (h : c ≠ '*') (g : List Char) :
    starred (c :: g) = c :: starred g := by
  show (if c = '*' then ['.', '*'] else [c]) ++ starred g = _
  rw [if_neg h]
  rfl

/-- What stands in front is a dot or an ordinary character. -/
theorem head_starred {g r : List Char} {c : Char} (h : Tame g) (hg : starred g = c :: r) :
    c = '.' ∨ c ∉ special := by
  cases g with
  | nil => cases hg
  | cons d t =>
    by_cases hd : d = '*'
    · subst hd
      rw [starred_cons_star] at hg
      exact .inl (List.cons.inj hg).1.symm
    · rw [starred_cons hd] at hg
      obtain rfl := (List.cons.inj hg).1
      exact .inr ((h d List.mem_cons_self).resolve_left hd)

theorem starred_ne {g : List Char} (h : Tame g) : starred g ≠ ['\\'] := by
  intro heq
  have hc := head_starred h heq
  revert hc
  decide

theorem tokenOf_starred {g : List Char} (h : Tame g) {c : Char} (hdot : c ≠ '.')
    (hc : c ∈ special) : tokenOf (starred g) ≠ some (.plain c) := by
  intro heq
  cases hg : starred g with
  | nil =>
    rw [hg] at heq
    cases heq
  | cons d r =>
    have hd := head_starred h hg
    have hslash : d ≠ '\\' := by
      rintro rfl
      revert hd
      decide
    rw [hg, tokenOf_cons hslash] at heq
    obtain rfl := Token.plain.inj (Option.some.inj heq)
    exact hd.elim hdot (fun hn => hn hc)

/-- The part that a character is read as. -/
def pieceOf (mode : Mode) (c : Char) : Piece :=
  if c = '*' then anyRow mode else .char (.literal c.toNat)

/-- The parts of the text come behind those read before.  A starred dot takes two rounds, which
the length of the starred text accounts for. -/
theorem sequence_starred [CharacterNames] {mode : Mode} (hv : mode.verbose = false) (first : Bool)
    {g : List Char} (h : Tame g) {n : Nat} (hn : (starred g).length < n) (parts : List Piece)
    {s : Cursor} (hs : s.rest = starred g) :
    sequence n mode first parts s
      = .ok (Piece.dissolve (parts.reverse ++ g.map (pieceOf mode)), { s with rest := [] }) := by
  induction g generalizing n parts s with
  | nil =>
    obtain ⟨n, rfl⟩ : ∃ m, n = m + 1 := ⟨n - 1, by omega⟩
    rw [sequence_end hs, List.map_nil, List.append_nil]
    cases s
    cases hs
    rfl
  | cons c g ih =>
    have ht := h.tail
    by_cases hc : c = '*'
    · subst hc
      rw [starred_cons_star] at hs hn
      simp only [List.length_cons] at hn
      obtain ⟨n, rfl⟩ : ∃ m, n = m + 1 + 1 := ⟨n - 2, by omega⟩
      rw [sequence_dot hv hs (by simp), sequence_star hv rfl (starred_ne ht)
        (tokenOf_starred ht (by decide) (by decide)) (tokenOf_starred ht (by decide) (by decide)),
        ih ht (by omega) _ rfl]
      simp [pieceOf]
    · rw [starred_cons hc] at hs hn
      simp only [List.length_cons] at hn
      obtain ⟨n, rfl⟩ : ∃ m, n = m + 1 := ⟨n - 1, by omega⟩
      have hord := (h c List.mem_cons_self).resolve_left hc
      rw [sequence_ordinary hv hs hord (starred_ne ht), ih ht (by omega) _ rfl]
      simp [pieceOf, hc]

theorem dissolve_pieces (mode : Mode) (g : List Char) :
    Piece.dissolve (g.map (pieceOf mode)) = g.map (pieceOf mode) := by
  induction g with
  | nil => rfl
  | cons c g ih =>
    rw [Piece.dissolve, List.map_cons, List.flatMap_cons]
    rw [Piece.dissolve] at ih
    rw [ih]
    by_cases hc : c = '*' <;> simp [pieceOf, hc, anyRow]

section Whole

variable [CharacterNames] {g : List Char} {n : Nat} {s : Cursor}

theorem branches_starred (hg : Tame g) (hn : (starred g).length + 1 < n)
    (hs : s.rest = starred g) (hv : s.mode.verbose = false) (mode : Mode) :
    branches n mode true [] s = .ok ([g.map (pieceOf s.mode)], { s with rest := [] }) := by
  obtain ⟨n, rfl⟩ : ∃ m, n = m + 1 := ⟨n - 1, by omega⟩
  have hseq := sequence_starred hv true hg (n := n) (by omega) [] hs
  rw [List.reverse_nil, List.nil_append, dissolve_pieces] at hseq
  have hbar : accept '|' { s with rest := [] } = .ok (false, { s with rest := [] }) :=
    accept_other (by simp [tokenOf])
  rw [branches, get_bind]
  show (sequence n s.mode true [] >>= fun _ => _) s = _
  rw [bind_of_ok hseq, bind_of_ok hbar]
  rfl

theorem alternation_starred (hg : Tame g) (hn : (starred g).length + 2 < n)
    (hs : s.rest = starred g) (hv : s.mode.verbose = false) (mode : Mode) :
    alternation n mode true s = .ok (g.map (pieceOf s.mode), { s with rest := [] }) := by
  obtain ⟨n, rfl⟩ : ∃ m, n = m + 1 := ⟨n - 1, by omega⟩
  rw [alternation, bind_of_ok (branches_starred hg (by omega) hs hv mode)]
  rfl

/-- A fresh reader reads the whole text. -/
theorem wholePattern_starred (hg : Tame g) (hs : s.rest = starred g)
    (hsize : s.size = (starred g).length) (hv : s.mode.verbose = false)
    (hascii : s.mode.ascii = false) (hawaited : s.awaited = []) :
    wholePattern s = .ok (Piece.nodeOf s.mode (g.map (pieceOf s.mode)), { s with rest := [] }) := by
  have hmove : moveTo s.rest s = .ok ((), s) := by
    rw [hs, moveTo_eq (starred_ne hg), ← hs]
  have hread := alternation_starred hg (n := enough s.size) (by simp only [enough]; omega) hs hv
    s.mode
  have hcheck : checkAwaited { s with rest := [] } = .ok ((), { s with rest := [] }) := by
    unfold checkAwaited
    rw [get_bind]
    simp only [hawaited, List.reverse_nil, List.find?_nil]
    rfl
  unfold wholePattern
  show (moveTo s.rest >>= fun _ => _) s = _
  rw [bind_of_ok hmove, bind_of_ok hread]
  show (if (s.mode.ascii && s.mode.unicode) = true then _ else _ : Reader Node) _ = _
  rw [hascii]
  show (checkAwaited >>= fun _ => _) { s with rest := [] } = _
  rw [bind_of_ok hcheck]
  rfl

end Whole

end Reader

open Reader

theorem widthFault?_nodeOf (mode : Mode) (g : List Char) :
    (Piece.nodeOf mode (g.map (pieceOf mode))).widthFault? = none := by
  induction g with
  | nil => rfl
  | cons c g ih =>
    show ((pieceOf mode c).node mode).widthFault?.or _ = none
    have hpiece : ((pieceOf mode c).node mode).widthFault? = none := by
      by_cases hc : c = '*' <;> simp [pieceOf, hc, anyRow, Piece.node, Node.widthFault?]
    rw [hpiece]
    exact ih

/-- What a text with no special character but stars is read as. -/
def starNode (ignoreCase : Bool) (g : List Char) : Node :=
  Piece.nodeOf { ignoreCase := ignoreCase } (g.map (pieceOf { ignoreCase := ignoreCase }))

theorem compile_starred [CharacterNames] {g : List Char} (h : Tame g) (ignoreCase : Bool) :
    compile ignoreCase (starred g) = .ok ⟨starred g, ignoreCase, starNode ignoreCase g⟩ := by
  let mode : Mode := { ignoreCase := ignoreCase }
  let cursor : Cursor := { size := (starred g).length, rest := starred g, mode := mode }
  have hwhole := wholePattern_starred (s := cursor) h rfl rfl rfl rfl rfl
  unfold compile
  show (wholePattern _ >>= fun _ => _) = _
  rw [hwhole]
  simp only [bind, Except.bind, widthFault?_nodeOf]
  rfl

end Pattern
end CatalogScout
