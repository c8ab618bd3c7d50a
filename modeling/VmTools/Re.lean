import VmTools.Python

/-
# `re`, for the three patterns of `cleanup_todos.py`

`cleanup_todos.py` searches lines with one pattern and rewrites lines with two others:

    //\s*(TODO|FIXME):\s*(.+?)$        find_todos
    //\s*(TODO|FIXME):.*                replace_todo_with_issue
    \s*//\s*(TODO|FIXME):.*\n?          remove_todo

They are built from literal characters, the classes `.` and `\s`, the greedy quantifiers `*`
and `?` over one class, a lazy `+?` over one class, an alternation of literal words, and `$`.
`matchAt` is a backtracking matcher for that fragment.  It tries the alternatives in the order
Python's engine tries them (a greedy run longest first, a lazy run shortest first, the words
of an alternation left to right), so the first success it finds is the match `re` reports;
`search` tries the start positions from the left.  `re.sub` is the scan `subScan`, run after
the replacement has been parsed as `sre_parse.parse_template` (Python 3.11) parses it:
escapes, group references, and the errors, raised before any matching.

The lemmas say what the matcher does on the shapes of line the script meets:
* `starThen_append`, `starThen_stop`: a greedy run takes the whole run of class characters;
* `lazyThen_dot_eol`: a lazy `(.+?)$` stops before the newline that ends the line;
* `altThen_cons_of_prefix`, `altThen_cons_of_not_prefix`: an alternation takes the first word
  the input starts with;
* `parseTemplate_plain`, `expand_lits`: a template with no backslash parses, and expands to
  itself;
* `subScan_append_of_none`, `subScan_cons_of_match`: a scan copies what does not match, and
  replaces a match by its expansion.

Over them, `Matches` says what a match of a pattern is, with no order of trial, and the engine
is proved against it:
* `matchAt_iff_matches`: what `matchAt` returns is a match, and it returns one exactly when
  there is one;
* `search_leftmost`: `search` reports the leftmost start at which the pattern matches.
-/

namespace VmTools.Re

open VmTools

/-! ## 1. Patterns and the matcher -/

/-- A class of one character. -/
inductive Cls where
  /-- One literal character. -/
  | char (c : Char)
  /-- `.`: any character but a newline. -/
  | dot
  /-- `\s`: a character `str.isspace` accepts. -/
  | space
  deriving DecidableEq, Repr

/-- Whether `c` belongs to the class. -/
def Cls.test : Cls → Char → Bool
  | .char d, c => c == d
  | .dot, c => c != '\n'
  | .space, c => isSpace c

/-- One element of a pattern. -/
inductive Item where
  /-- One character of the class. -/
  | one (k : Cls)
  /-- `k*`, greedy. -/
  | star (k : Cls)
  /-- `k?`, greedy. -/
  | opt (k : Cls)
  /-- `(k+?)`: a capturing group of at least one character, as few as possible. -/
  | lazyPlus (k : Cls)
  /-- `(w₁|w₂|…)`: a capturing group of literal words, tried left to right. -/
  | alt (ws : List (List Char))
  /-- `$`: the end of the string, or just before a newline that ends it. -/
  | eol
  deriving DecidableEq, Repr

/-- `pattern.groups`: the number of capturing groups. -/
def groupCount : List Item → Nat
  | [] => 0
  | .lazyPlus _ :: p => groupCount p + 1
  | .alt _ :: p => groupCount p + 1
  | _ :: p => groupCount p

section Matcher

variable {α : Type}

/-- `k*` and then `cont`: the longest run of class characters first, then shorter ones. -/
def starThen (k : Cls) (cont : List Char → Option α) : List Char → Option α
  | [] => cont []
  | c :: s => if k.test c then starThen k cont s <|> cont (c :: s) else cont (c :: s)

/-- `(k+?)` and then `cont`, which is also given the characters taken: the shortest run
first. -/
def lazyThen (k : Cls) (cont : List Char → List Char → Option α) : List Char → Option α
  | [] => none
  | c :: s => if k.test c then cont [c] s <|> lazyThen k (fun t r => cont (c :: t) r) s else none

/-- `(w₁|w₂|…)` and then `cont`, which is also given the word taken. -/
def altThen (cont : List Char → List Char → Option α) (s : List Char) :
    List (List Char) → Option α
  | [] => none
  | w :: ws => (if w.isPrefixOf s then cont w (s.drop w.length) else none) <|> altThen cont s ws

end Matcher

/-- Matching a pattern at the start of `s`, after the groups `gs` were captured: the groups
and what follows the match. -/
def matchAt : List Item → List Char → List (List Char) → Option (List (List Char) × List Char)
  | [], s, gs => some (gs, s)
  | .one k :: p, s, gs => match s with
    | c :: r => if k.test c then matchAt p r gs else none
    | [] => none
  | .star k :: p, s, gs => starThen k (fun r => matchAt p r gs) s
  | .opt k :: p, s, gs => match s with
    | c :: r => if k.test c then matchAt p r gs <|> matchAt p s gs else matchAt p s gs
    | [] => matchAt p [] gs
  | .lazyPlus k :: p, s, gs => lazyThen k (fun t r => matchAt p r (gs ++ [t])) s
  | .alt ws :: p, s, gs => altThen (fun w r => matchAt p r (gs ++ [w])) s ws
  | .eol :: p, s, gs => if s = [] ∨ s = ['\n'] then matchAt p s gs else none

/-- `pattern.search(s)`, counting positions from `i`: the first start from the left where the
pattern matches, with the groups and what follows the match. -/
def searchFrom (p : List Item) (i : Nat) : List Char → Option (Nat × List (List Char) × List Char)
  | [] => (matchAt p [] []).map fun m => (i, m)
  | c :: s => match matchAt p (c :: s) [] with
    | some m => some (i, m)
    | none => searchFrom p (i + 1) s

/-- `pattern.search(s)`. -/
def search (p : List Item) (s : List Char) : Option (Nat × List (List Char) × List Char) :=
  searchFrom p 0 s

/-! ## 2. Replacement templates -/

/-- A token of a template, as `sre_parse.Tokenizer` reads it: a character, a backslash with
the character after it, or a backslash that ends the template. -/
inductive Token where
  | plain (c : Char)
  | esc (c : Char)
  | badEnd
  deriving DecidableEq, Repr

/-- The tokenizer. -/
def tokenize : List Char → List Token
  | [] => []
  | ['\\'] => [.badEnd]
  | '\\' :: c :: s => .esc c :: tokenize s
  | c :: s => .plain c :: tokenize s

/-- The characters a token stands for inside a group name. -/
def Token.text : Token → List Char
  | .plain c => [c]
  | .esc c => ['\\', c]
  | .badEnd => ['\\']

/-- A piece of a parsed template: a character, or a group of the match. -/
inductive Piece where
  | lit (c : Char)
  | group (n : Nat)
  deriving DecidableEq, Repr

/-- `sre_parse.ESCAPES` for a template: `\a \b \f \n \r \t \v \\`. -/
def escapeChar : Char → Option Char
  | 'a' => some '\x07'
  | 'b' => some '\x08'
  | 'f' => some '\x0c'
  | 'n' => some '\n'
  | 'r' => some '\r'
  | 't' => some '\t'
  | 'v' => some '\x0b'
  | '\\' => some '\\'
  | _ => none

/-- An ASCII letter, `sre_parse.ASCIILETTERS`. -/
def isAsciiLetter (c : Char) : Bool := ('a' ≤ c && c ≤ 'z') || ('A' ≤ c && c ≤ 'Z')

/-- An octal digit. -/
def isOctDigit (c : Char) : Bool := '0' ≤ c && c ≤ '7'

/-- `int(ds, base)` for ASCII digits. -/
def ofDigits (base : Nat) (ds : List Char) : Nat :=
  ds.foldl (fun n d => base * n + (d.toNat - '0'.toNat)) 0

/-- An ASCII identifier: a letter or `_`, then letters, digits and `_`. -/
def isAsciiIdent : List Char → Bool
  | [] => false
  | c :: s => (isAsciiLetter c || c == '_') && s.all fun d => isAsciiLetter d || d.isDigit || d == '_'

/-- `\g<name>` for a pattern with `groups` groups: ASCII digits name a group, which must exist;
an identifier names a group this pattern does not have, and raises `IndexError`; any other
name is `re.error`. -/
def groupByName (groups : Nat) (name : List Char) : Except PyError Piece :=
  if name ≠ [] ∧ name.all Char.isDigit then
    if ofDigits 10 name ≤ groups then .ok (.group (ofDigits 10 name)) else .error .reError
  else if isAsciiIdent name then .error .indexError else .error .reError

/-- `\d…` as a group reference. -/
def groupRef (groups : Nat) (ds : List Char) : Except PyError Piece :=
  if ofDigits 10 ds ≤ groups then .ok (.group (ofDigits 10 ds)) else .error .reError

/-- Where `parse_template` is between two tokens: between pieces, after `\g`, inside `\g<…>`
with the name read so far, after `\0` and the octal digits read after it, or after `\d` with
`d ≠ 0` and the digits read so far. -/
inductive PState where
  | normal
  | afterG
  | name (acc : List Char)
  | zero (ds : List Char)
  | digits (ds : List Char)
  deriving DecidableEq, Repr

/-- One token read between pieces.  `bad` says the token after it is a backslash that ends
the template: the tokenizer raises as it steps past this one, before the token is used. -/
def feedNormal (t : Token) (bad : Bool) : Except PyError (List Piece × PState) :=
  if bad then .error .reError else
  match t with
  | .plain c => .ok ([.lit c], .normal)
  | .badEnd => .error .reError
  | .esc c =>
    if c = 'g' then .ok ([], .afterG)
    else if c = '0' then .ok ([], .zero [])
    else if c.isDigit then .ok ([], .digits [c])
    else match escapeChar c with
      | some e => .ok ([.lit e], .normal)
      | none => if isAsciiLetter c then .error .reError else .ok ([.lit '\\', .lit c], .normal)

/-- What an unfinished escape gives when the token after it does not continue it. -/
def flush (groups : Nat) : PState → Except PyError (List Piece)
  | .normal => .ok []
  | .afterG => .error .reError
  | .name _ => .error .reError
  | .zero ds => .ok [.lit (Char.ofNat (ofDigits 8 ds))]
  | .digits ds => (fun pc => [pc]) <$> groupRef groups ds

/-- One token read in a state: the pieces it completes and the next state.  A `\0` takes up to
two octal digits; a `\d` takes one more digit, and a third when all three are octal (an octal
escape, at most `0o377`); `\g` must be followed by `<`, and the name ends at `>`. -/
def feed (groups : Nat) (st : PState) (t : Token) (bad : Bool) :
    Except PyError (List Piece × PState) :=
  let otherwise : Except PyError (List Piece × PState) := do
    let out ← flush groups st
    let (more, st') ← feedNormal t bad
    pure (out ++ more, st')
  match st, t with
  | .normal, _ => feedNormal t bad
  | .afterG, .plain '<' => if bad then .error .reError else .ok ([], .name [])
  | .afterG, _ => .error .reError
  | .name acc, _ =>
    if bad then .error .reError
    else if t = .plain '>' then (fun pc => ([pc], .normal)) <$> groupByName groups acc
    else .ok ([], .name (acc ++ t.text))
  | .zero ds, .plain a =>
    if isOctDigit a ∧ ds.length < 2 then
      if bad then .error .reError else .ok ([], .zero (ds ++ [a]))
    else otherwise
  | .digits [c], .plain d =>
    if d.isDigit then (if bad then .error .reError else .ok ([], .digits [c, d])) else otherwise
  | .digits [c, d], .plain e =>
    if isOctDigit c ∧ isOctDigit d ∧ isOctDigit e then
      if bad then .error .reError
      else if ofDigits 8 [c, d, e] ≤ 0o377 then .ok ([.lit (Char.ofNat (ofDigits 8 [c, d, e]))], .normal)
      else .error .reError
    else otherwise
  | _, _ => otherwise

/-- `parse_template` over the tokens, from a state. -/
def parseTokens (groups : Nat) : PState → List Token → Except PyError (List Piece)
  | st, [] => flush groups st
  | st, t :: ts => do
    let (out, st') ← feed groups st t (ts.head? = some .badEnd)
    let rest ← parseTokens groups st' ts
    pure (out ++ rest)

/-- `sre_parse.parse_template(repl, pattern)` for a pattern with `groups` groups. -/
def parseTemplate (groups : Nat) (repl : List Char) : Except PyError (List Piece) :=
  parseTokens groups .normal (tokenize repl)

/-- The text a template gives for one match: `whole` is group 0 and `gs` the groups
`1, 2, …`. -/
def expand (whole : List Char) (gs : List (List Char)) : List Piece → List Char
  | [] => []
  | .lit c :: ps => c :: expand whole gs ps
  | .group 0 :: ps => whole ++ expand whole gs ps
  | .group (n + 1) :: ps => gs.getD n [] ++ expand whole gs ps

/-! ## 3. `re.sub` -/

/-- The scan of `re.sub`, in at most `fuel` steps: at each position a match is replaced by its
expansion and the scan resumes after it; an empty match is replaced and one character copied;
where nothing matches one character is copied. -/
def subScan (p : List Item) (t : List Piece) : Nat → List Char → List Char
  | 0, s => s
  | _ + 1, [] => match matchAt p [] [] with
    | some (gs, _) => expand [] gs t
    | none => []
  | fuel + 1, c :: s => match matchAt p (c :: s) [] with
    | some (gs, r) =>
      if r.length < s.length + 1 then
        expand ((c :: s).take (s.length + 1 - r.length)) gs t ++ subScan p t fuel r
      else expand [] gs t ++ c :: subScan p t fuel s
    | none => c :: subScan p t fuel s

/-- `re.sub(pattern, repl, s)`: the template is parsed first, so a bad one raises even where
nothing matches, and each step of the scan takes at least one character. -/
def reSub (p : List Item) (repl s : List Char) : Except PyError (List Char) :=
  (parseTemplate (groupCount p) repl).map fun t => subScan p t (s.length + 1) s

/-! ## 4. What the matcher does on a line -/

section Runs

variable {α : Type} {k : Cls}

/-- A greedy run over characters outside the class is empty: the continuation runs at once. -/
theorem starThen_stop {cont : List Char → Option α} {s : List Char}
    (hs : ∀ c ∈ s.head?, k.test c = false) : starThen k cont s = cont s := by
  cases s with
  | nil => rfl
  | cons c s => simp [starThen, hs c rfl]

/-- A greedy run first takes every class character in front: where the continuation succeeds
after the whole run, the run's match is that one. -/
theorem starThen_append {cont : List Char → Option α} {s : List Char} {x : α}
    (h : starThen k cont s = some x) :
    ∀ w : List Char, (∀ c ∈ w, k.test c = true) → starThen k cont (w ++ s) = some x
  | [], _ => h
  | c :: w, hw => by
    rw [List.cons_append, starThen, if_pos (hw c (List.mem_cons_self c w)),
      starThen_append h w fun d hd => hw d (List.mem_cons_of_mem c hd)]
    rfl

/-- A lazy `(.+?)$` on a line body and its newline takes the whole body: `$` holds only
before the final newline. -/
theorem lazyThen_dot_eol (f : List Char → α) :
    ∀ w : List Char, w ≠ [] → '\n' ∉ w →
      lazyThen .dot (fun t r => if r = [] ∨ r = ['\n'] then some (f t, r) else none)
        (w ++ ['\n']) = some (f w, ['\n'])
  | [], hw, _ => absurd rfl hw
  | [c], _, hn => by
    have hc : c ≠ '\n' := fun h => hn (h ▸ List.mem_singleton_self c)
    simp [lazyThen, Cls.test, hc]
  | c :: d :: w, _, hn => by
    have hc : c ≠ '\n' := fun h => hn (h ▸ List.mem_cons_self c _)
    have ih := lazyThen_dot_eol (fun t => f (c :: t)) (d :: w) (List.cons_ne_nil d w)
      fun h => hn (List.mem_cons_of_mem c h)
    simp only [List.cons_append] at ih ⊢
    rw [lazyThen, if_pos (by simpa [Cls.test] using hc), ih]
    simp

end Runs

section Alternation

variable {α : Type} {cont : List Char → List Char → Option α} {s w : List Char}
  {ws : List (List Char)}

/-- The word the input starts with is taken, when the rest of the pattern then matches. -/
theorem altThen_cons_of_prefix {x : α} (h : w <+: s) (hc : cont w (s.drop w.length) = some x) :
    altThen cont s (w :: ws) = some x := by
  rw [altThen, if_pos (List.isPrefixOf_iff_prefix.mpr h), hc]
  rfl

/-- A word the input does not start with is passed over. -/
theorem altThen_cons_of_not_prefix (h : ¬ w <+: s) :
    altThen cont s (w :: ws) = altThen cont s ws := by
  rw [altThen, if_neg (mt List.isPrefixOf_iff_prefix.mp h)]
  rfl

end Alternation

/-- `search` passes over a prefix at none of whose positions the pattern matches. -/
theorem searchFrom_append_of_none {p : List Item} (s : List Char) :
    ∀ (a : List Char) (i : Nat), (∀ j < a.length, matchAt p ((a ++ s).drop j) [] = none) →
      searchFrom p i (a ++ s) = searchFrom p (i + a.length) s
  | [], _, _ => rfl
  | c :: a, i, h => by
    have h0 : matchAt p (c :: (a ++ s)) [] = none := h 0 (Nat.succ_pos _)
    rw [List.cons_append, searchFrom, h0]
    simp only
    rw [searchFrom_append_of_none s a (i + 1) fun j hj => h (j + 1) (Nat.succ_lt_succ hj),
      List.length_cons, Nat.add_assoc, Nat.add_comm 1]

/-- A match at the start is the one `search` reports. -/
theorem searchFrom_of_matchAt {p : List Item} {i : Nat} {s : List Char}
    {m : List (List Char) × List Char} (h : matchAt p s [] = some m) :
    searchFrom p i s = some (i, m) := by
  cases s with
  | nil => simp [searchFrom, h]
  | cons c s => simp [searchFrom, h]

/-! ## 5. Templates without a backslash -/

theorem tokenize_plain : ∀ s : List Char, '\\' ∉ s → tokenize s = s.map .plain
  | [], _ => rfl
  | [c], h => by
    have : c ≠ '\\' := fun e => h (e ▸ List.mem_singleton_self c)
    simp [tokenize, this]
  | c :: d :: s, h => by
    have hc : c ≠ '\\' := fun e => h (e ▸ List.mem_cons_self c _)
    have ih := tokenize_plain (d :: s) fun e => h (List.mem_cons_of_mem c e)
    simp [tokenize, hc, ih]

/-- A character is a piece of its own, unless the tokenizer's next step raises. -/
theorem parseTokens_normal_plain (groups : Nat) (c : Char) {ts : List Token}
    (h : ts.head? ≠ some .badEnd) :
    parseTokens groups .normal (.plain c :: ts) =
      List.cons (.lit c) <$> parseTokens groups .normal ts := by
  simp only [parseTokens, feed, feedNormal, h, decide_False, Bool.false_eq_true, if_false,
    except_ok_bind]
  cases parseTokens groups .normal ts <;> rfl

theorem parseTokens_plain (groups : Nat) :
    ∀ s : List Char, parseTokens groups .normal (s.map .plain) = .ok (s.map .lit)
  | [] => rfl
  | [c] => rfl
  | c :: d :: s => by
    rw [List.map_cons, parseTokens_normal_plain groups c (by simp),
      parseTokens_plain groups (d :: s)]
    rfl

theorem expand_lits (whole : List Char) (gs : List (List Char)) :
    ∀ s : List Char, expand whole gs (s.map .lit) = s
  | [] => rfl
  | c :: s => by rw [List.map_cons, expand, expand_lits whole gs s]

/-- **A template with no backslash is taken literally**: it parses, and every match expands to
the template itself. -/
theorem parseTemplate_plain (groups : Nat) {s : List Char} (h : '\\' ∉ s) :
    parseTemplate groups s = .ok (s.map .lit) := by
  rw [parseTemplate, tokenize_plain s h, parseTokens_plain]

/-! ## 6. The scan of `re.sub` -/

section Scan

variable {p : List Item} {t : List Piece}

/-- Where the pattern does not match, one character is copied. -/
theorem subScan_cons_of_none {c : Char} {s : List Char} (fuel : Nat)
    (h : matchAt p (c :: s) [] = none) :
    subScan p t (fuel + 1) (c :: s) = c :: subScan p t fuel s := by
  rw [subScan, h]

/-- A prefix at none of whose positions the pattern matches is copied. -/
theorem subScan_append_of_none (s : List Char) (fuel : Nat) :
    ∀ a : List Char, (∀ i < a.length, matchAt p ((a ++ s).drop i) [] = none) →
      subScan p t (fuel + a.length) (a ++ s) = a ++ subScan p t fuel s
  | [], _ => rfl
  | c :: a, h => by
    have h0 : matchAt p (c :: (a ++ s)) [] = none := h 0 (Nat.succ_pos _)
    rw [List.length_cons, ← Nat.add_assoc, List.cons_append, subScan_cons_of_none _ h0,
      subScan_append_of_none s fuel a fun i hi => h (i + 1) (Nat.succ_lt_succ hi)]
    rfl

/-- A match that is not empty is replaced by its expansion, and the scan goes on after it. -/
theorem subScan_cons_of_match {c : Char} {s r : List Char} {gs : List (List Char)} (fuel : Nat)
    (h : matchAt p (c :: s) [] = some (gs, r)) (hr : r.length < s.length + 1) :
    subScan p t (fuel + 1) (c :: s) =
      expand ((c :: s).take (s.length + 1 - r.length)) gs t ++ subScan p t fuel r := by
  rw [subScan, h]
  exact if_pos hr

end Scan

/-! ## 7. What a pattern means

`matchAt` is an engine: it tries the ways to match in Python's order and stops at the first
that succeeds.  `Matches` says what a match is, with no order: each item takes a piece of the
input its rule allows, a group captures the piece it took, and `$` looks at what follows.  The
engine finds a match exactly when there is one, and what it returns is one; `search` reports
the leftmost start at which there is one. -/

/-- `Matches p s gs m`: `p` matches a prefix of `s` after the groups `gs` were captured, and `m`
is the groups, with those of the match, and what follows the match. -/
inductive Matches : List Item → List Char → List (List Char) → List (List Char) × List Char → Prop
  | nil {s gs} : Matches [] s gs (gs, s)
  | one {k c r p gs m} : k.test c → Matches p r gs m → Matches (.one k :: p) (c :: r) gs m
  | star {k w r p gs m} : (∀ c ∈ w, k.test c) → Matches p r gs m →
      Matches (.star k :: p) (w ++ r) gs m
  | optOne {k c r p gs m} : k.test c → Matches p r gs m → Matches (.opt k :: p) (c :: r) gs m
  | optNone {k s p gs m} : Matches p s gs m → Matches (.opt k :: p) s gs m
  | lazyPlus {k w r p gs m} : w ≠ [] → (∀ c ∈ w, k.test c) → Matches p r (gs ++ [w]) m →
      Matches (.lazyPlus k :: p) (w ++ r) gs m
  | alt {ws w r p gs m} : w ∈ ws → Matches p r (gs ++ [w]) m →
      Matches (.alt ws :: p) (w ++ r) gs m
  | eol {s p gs m} : (s = [] ∨ s = ['\n']) → Matches p s gs m → Matches (.eol :: p) s gs m

/-- A match takes a prefix of the input: what follows it is a suffix. -/
theorem Matches.rest_suffix {p : List Item} {s : List Char} {gs : List (List Char)}
    {m : List (List Char) × List Char} (h : Matches p s gs m) : m.2 <:+ s := by
  induction h with
  | nil => exact List.suffix_refl _
  | one _ _ ih => exact ih.trans (List.suffix_cons _ _)
  | star _ _ ih => exact ih.trans (List.suffix_append _ _)
  | optOne _ _ ih => exact ih.trans (List.suffix_cons _ _)
  | optNone _ ih => exact ih
  | lazyPlus _ _ _ ih => exact ih.trans (List.suffix_append _ _)
  | alt _ _ ih => exact ih.trans (List.suffix_append _ _)
  | eol _ _ ih => exact ih

section Engine

variable {α : Type} {k : Cls}

/-- An alternation succeeds when one of its branches does. -/
theorem isSome_orElse {x y : Option α} (h : x.isSome ∨ y.isSome) : (x <|> y).isSome := by
  cases x <;> simp_all

/-- What a greedy run that succeeded took: class characters, after which the continuation
succeeded. -/
theorem starThen_eq_some {cont : List Char → Option α} {x : α} :
    ∀ s : List Char, starThen k cont s = some x →
      ∃ w r, s = w ++ r ∧ (∀ c ∈ w, k.test c) ∧ cont r = some x
  | [], h => ⟨[], [], rfl, fun _ h => absurd h (List.not_mem_nil _), h⟩
  | c :: s, h => by
    rw [starThen] at h
    split_ifs at h with hc
    · rcases (Option.orElse_eq_some _ _ _).mp h with h | ⟨-, h⟩
      · obtain ⟨w, r, rfl, hw, hr⟩ := starThen_eq_some s h
        exact ⟨c :: w, r, rfl, List.forall_mem_cons.mpr ⟨hc, hw⟩, hr⟩
      · exact ⟨[], c :: s, rfl, fun _ h => absurd h (List.not_mem_nil _), h⟩
    · exact ⟨[], c :: s, rfl, fun _ h => absurd h (List.not_mem_nil _), h⟩

/-- What a lazy run that succeeded took: at least one class character, after which the
continuation succeeded. -/
theorem lazyThen_eq_some {x : α} :
    ∀ (s : List Char) {cont : List Char → List Char → Option α}, lazyThen k cont s = some x →
      ∃ w r, w ≠ [] ∧ s = w ++ r ∧ (∀ c ∈ w, k.test c) ∧ cont w r = some x
  | [], _, h => by simp [lazyThen] at h
  | c :: s, cont, h => by
    rw [lazyThen] at h
    split_ifs at h with hc
    rcases (Option.orElse_eq_some _ _ _).mp h with h | ⟨-, h⟩
    · exact ⟨[c], s, List.cons_ne_nil _ _, rfl, by simpa using hc, h⟩
    · obtain ⟨w, r, -, rfl, hw, hr⟩ := lazyThen_eq_some s h
      exact ⟨c :: w, r, List.cons_ne_nil _ _, rfl, List.forall_mem_cons.mpr ⟨hc, hw⟩, hr⟩

/-- What an alternation that succeeded took: one of its words, after which the continuation
succeeded. -/
theorem altThen_eq_some {cont : List Char → List Char → Option α} {s : List Char} {x : α} :
    ∀ ws : List (List Char), altThen cont s ws = some x →
      ∃ w ∈ ws, ∃ r, s = w ++ r ∧ cont w r = some x
  | [], h => by simp [altThen] at h
  | w :: ws, h => by
    rw [altThen] at h
    rcases (Option.orElse_eq_some _ _ _).mp h with h | ⟨-, h⟩
    · split_ifs at h with hw
      obtain ⟨r, rfl⟩ := List.isPrefixOf_iff_prefix.mp hw
      exact ⟨w, List.mem_cons_self w ws, r, rfl, by simpa using h⟩
    · obtain ⟨w', hw', r, rfl, hr⟩ := altThen_eq_some ws h
      exact ⟨w', List.mem_cons_of_mem w hw', r, rfl, hr⟩

/-- A greedy run succeeds when its continuation succeeds after some run of class characters. -/
theorem starThen_isSome {cont : List Char → Option α} {s : List Char} (h : (cont s).isSome) :
    ∀ w : List Char, (∀ c ∈ w, k.test c) → (starThen k cont (w ++ s)).isSome
  | [], _ => by
    cases s with
    | nil => exact h
    | cons c s =>
      rw [List.nil_append, starThen]
      split_ifs
      · exact isSome_orElse (.inr h)
      · exact h
  | c :: w, hw => by
    rw [List.forall_mem_cons] at hw
    rw [List.cons_append, starThen, if_pos hw.1]
    exact isSome_orElse (.inl (starThen_isSome h w hw.2))

/-- A lazy run succeeds when its continuation succeeds after some nonempty run of class
characters. -/
theorem lazyThen_isSome {r : List Char} :
    ∀ (w : List Char) {cont : List Char → List Char → Option α}, w ≠ [] →
      (∀ c ∈ w, k.test c) → (cont w r).isSome → (lazyThen k cont (w ++ r)).isSome
  | [], _, hne, _, _ => absurd rfl hne
  | [c], _, _, hw, h => by
    rw [List.singleton_append, lazyThen, if_pos (hw c (List.mem_singleton_self c))]
    exact isSome_orElse (.inl h)
  | c :: d :: w, _, _, hw, h => by
    rw [List.forall_mem_cons] at hw
    rw [List.cons_append, lazyThen, if_pos hw.1]
    exact isSome_orElse (.inr (lazyThen_isSome (d :: w) (List.cons_ne_nil d w) hw.2 h))

/-- An alternation succeeds when its continuation succeeds after one of its words. -/
theorem altThen_isSome {cont : List Char → List Char → Option α} {w r : List Char}
    (h : (cont w r).isSome) : ∀ {ws : List (List Char)}, w ∈ ws → (altThen cont (w ++ r) ws).isSome
  | [], hw => absurd hw (List.not_mem_nil w)
  | _ :: _, hw => by
    rw [altThen]
    rcases List.mem_cons.mp hw with rfl | hw
    · rw [if_pos (List.isPrefixOf_iff_prefix.mpr (List.prefix_append _ _)), List.drop_left]
      exact isSome_orElse (.inl h)
    · exact isSome_orElse (.inr (altThen_isSome h hw))

end Engine

/-- The match `matchAt` returns is a match. -/
theorem matchAt_sound : ∀ (p : List Item) (s : List Char) (gs : List (List Char))
    {m : List (List Char) × List Char}, matchAt p s gs = some m → Matches p s gs m
  | [], _, _, _, h => by cases h; exact .nil
  | .one _ :: p, c :: r, gs, _, h => by
    simp only [matchAt] at h
    split_ifs at h with hc
    exact .one hc (matchAt_sound p r gs h)
  | .one _ :: _, [], _, _, h => by simp [matchAt] at h
  | .star _ :: p, s, gs, _, h => by
    obtain ⟨w, r, rfl, hw, hr⟩ := starThen_eq_some s h
    exact .star hw (matchAt_sound p r gs hr)
  | .opt _ :: p, c :: r, gs, _, h => by
    simp only [matchAt] at h
    split_ifs at h with hc
    · rcases (Option.orElse_eq_some _ _ _).mp h with h | ⟨-, h⟩
      · exact .optOne hc (matchAt_sound p r gs h)
      · exact .optNone (matchAt_sound p (c :: r) gs h)
    · exact .optNone (matchAt_sound p (c :: r) gs h)
  | .opt _ :: p, [], gs, _, h => .optNone (matchAt_sound p [] gs h)
  | .lazyPlus _ :: p, s, _, _, h => by
    obtain ⟨w, r, hne, rfl, hw, hr⟩ := lazyThen_eq_some s h
    exact .lazyPlus hne hw (matchAt_sound p r _ hr)
  | .alt ws :: p, _, _, _, h => by
    obtain ⟨w, hw, r, rfl, hr⟩ := altThen_eq_some ws h
    exact .alt hw (matchAt_sound p r _ hr)
  | .eol :: p, s, gs, _, h => by
    simp only [matchAt] at h
    split_ifs at h with he
    exact .eol he (matchAt_sound p s gs h)

/-- Where the pattern can match, `matchAt` finds a match: backtracking misses none. -/
theorem matchAt_complete {p : List Item} {s : List Char} {gs : List (List Char)}
    {m : List (List Char) × List Char} (h : Matches p s gs m) : (matchAt p s gs).isSome := by
  induction h with
  | nil => rfl
  | one hc _ ih => simpa [matchAt, hc] using ih
  | star hw _ ih => exact starThen_isSome ih _ hw
  | optOne hc _ ih => simpa [matchAt, hc] using isSome_orElse (.inl ih)
  | @optNone k s p gs m _ ih =>
    cases s with
    | nil => exact ih
    | cons c r =>
      simp only [matchAt]
      split_ifs
      · exact isSome_orElse (.inr ih)
      · exact ih
  | lazyPlus hne hw _ ih => exact lazyThen_isSome _ hne hw ih
  | alt hw _ ih => exact altThen_isSome ih hw
  | eol he _ ih => simpa [matchAt, he] using ih

/-- **The engine decides what a pattern means**: what `matchAt` returns is a match, and it
returns one exactly when there is one. -/
theorem matchAt_iff_matches (p : List Item) (s : List Char) (gs : List (List Char)) :
    (∀ m, matchAt p s gs = some m → Matches p s gs m) ∧
      ((matchAt p s gs).isSome ↔ ∃ m, Matches p s gs m) := by
  refine ⟨fun _ => matchAt_sound p s gs, fun h => ?_, fun ⟨_, hm⟩ => matchAt_complete hm⟩
  obtain ⟨m, hm⟩ := Option.isSome_iff_exists.mp h
  exact ⟨m, matchAt_sound p s gs hm⟩

/-- Where `searchFrom` reports a match: at the first position where `matchAt` finds one. -/
theorem searchFrom_eq_some {p : List Item} :
    ∀ (s : List Char) (i j : Nat) {m : List (List Char) × List Char},
      searchFrom p i s = some (j, m) →
      ∃ t, j = i + t ∧ t ≤ s.length ∧ matchAt p (s.drop t) [] = some m ∧
        ∀ u < t, matchAt p (s.drop u) [] = none
  | [], i, j, m, h => by
    obtain ⟨a, ha, he⟩ := Option.map_eq_some'.mp h
    cases he
    exact ⟨0, rfl, le_refl _, ha, fun u hu => absurd hu (Nat.not_lt_zero u)⟩
  | c :: s, i, j, m, h => by
    rw [searchFrom] at h
    split at h
    · cases h
      exact ⟨0, rfl, Nat.zero_le _, ‹_›, fun u hu => absurd hu (Nat.not_lt_zero u)⟩
    · obtain ⟨t, rfl, ht, hm, hu⟩ := searchFrom_eq_some s (i + 1) j h
      refine ⟨t + 1, by omega, by simpa using ht, hm, fun u hu' => ?_⟩
      cases u with
      | zero => assumption
      | succ u => exact hu u (by omega)

/-- `searchFrom` reports something when `matchAt` finds a match at some position. -/
theorem searchFrom_isSome {p : List Item} :
    ∀ (s : List Char) (i t : Nat), t ≤ s.length → (matchAt p (s.drop t) []).isSome →
      (searchFrom p i s).isSome
  | [], _, t, ht, h => by
    obtain rfl : t = 0 := Nat.le_zero.mp ht
    simpa [searchFrom] using h
  | c :: s, i, t, ht, h => by
    rw [searchFrom]
    split
    · rfl
    · cases t with
      | zero => simp_all
      | succ t => exact searchFrom_isSome s (i + 1) t (by simpa using ht) (by simpa using h)

/-- **`search` reports the leftmost match**: the start it reports is one where the pattern
matches, and at no position before it does; and it reports one whenever the pattern matches
somewhere. -/
theorem search_leftmost (p : List Item) (s : List Char) :
    (∀ i m, search p s = some (i, m) →
      i ≤ s.length ∧ Matches p (s.drop i) [] m ∧ ∀ j < i, ∀ m', ¬ Matches p (s.drop j) [] m') ∧
    ((∃ i ≤ s.length, ∃ m, Matches p (s.drop i) [] m) → (search p s).isSome) := by
  refine ⟨fun i m h => ?_, fun ⟨i, hi, _, hm⟩ => searchFrom_isSome s 0 i hi (matchAt_complete hm)⟩
  obtain ⟨t, rfl, ht, hm, hu⟩ := searchFrom_eq_some s 0 i h
  rw [Nat.zero_add]
  refine ⟨ht, matchAt_sound _ _ _ hm, fun j hj m' hm' => ?_⟩
  have hsome := matchAt_complete hm'
  rw [hu j hj] at hsome
  exact Bool.false_ne_true hsome

end VmTools.Re
