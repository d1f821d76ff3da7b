import Mathlib.Algebra.Group.Nat.Even
import Liki.Inference.RecoveredObjects

/-! The directives of a Markdown specification. The outer loop sees a fence at any indentation,
the loop that collects the lines of a directive only one at the margin: a directive that takes in
an indented fence leaves the reader on the wrong side of it. Where directives take in fences by
pairs only, every binding line outside the fences is in one directive, under its heading. -/
namespace Liki.Requirements
open Json Inference List Nat

/-- The character classes of `re` for text. -/
structure CharClasses where
  isWord : Char → Bool
  isDigit : Char → Bool

def isSpace (char : Char) : Bool := whitespace.contains char

def strip (text : Text) : Text := (text.dropWhile isSpace).rdropWhile isSpace

/-- `line.lstrip().startswith("```")`. -/
def isFence (line : Text) : Bool := fence.isPrefixOf (line.dropWhile isSpace)

def isQuotation (line : Text) : Bool := ['>'].isPrefixOf line

def isRule (line : Text) : Bool := ['-', '-', '-'].isPrefixOf line

/-- `HEADING`: the level and the title. -/
def heading (line : Text) : Option (ℕ × Text) :=
  let marks := line.takeWhile (· = '#')
  let rest := line.dropWhile (· = '#')
  if 1 ≤ marks.length ∧ marks.length ≤ 6 ∧ rest.head?.any isSpace then
    some (marks.length, rest.dropWhile isSpace)
  else none

section Lines

variable (classes : CharClasses)

/-- The word stands here, and no word character follows it. -/
def startsWord (word line : Text) : Bool :=
  word.isPrefixOf line && !(line.drop word.length).head?.any classes.isWord

/-- `HARD`, behind a character that is part of a word or not. -/
def hardAfter (inWord : Bool) : Text → Bool
  | [] => false
  | char :: rest =>
    !inWord && (startsWord classes "MUST".toList (char :: rest) ||
      startsWord classes "SHALL".toList (char :: rest)) || hardAfter (classes.isWord char) rest

def isHard (line : Text) : Bool := hardAfter classes false line

/-- What follows the verb: a colon, perhaps behind an object. -/
def closes (rest : Text) : Bool :=
  rest = [':'] ∨ 3 ≤ rest.length ∧ rest.head? = some ' ' ∧ rest.getLast? = some ':' ∧
    ':' ∉ rest.dropLast

/-- `LIST_CONTRACT`. -/
def isListContract (line : Text) : Bool :=
  line = "Requirements:".toList ||
    ("Must ".toList.isPrefixOf line && 7 ≤ line.length && line.getLast? = some ':') ||
    ["Every ", "Each "].any fun opening => opening.toList.isPrefixOf line &&
      (line.drop (opening.length + 1)).tails.any fun tail =>
        [" includes", " contains", " declares"].any fun verb =>
          verb.toList.isPrefixOf tail && closes (tail.drop verb.length)

/-- `- ` or a number, a dot and a space. -/
def isListItem (line : Text) : Bool :=
  ['-', ' '].isPrefixOf line ∨
    line.takeWhile classes.isDigit ≠ [] ∧ ['.', ' '].isPrefixOf (line.dropWhile classes.isDigit)

/-- The lines that the inner loop appends to a directive whose last line is given. -/
def blockTail (last : Text) : List Text → List Text
  | [] => []
  | next :: rest =>
    if (heading next).isSome ∨ fence.isPrefixOf next ∨ isRule next ∨ isQuotation next then []
    else if next.all isSpace then
      if (rest.head?.any (isListItem classes)) ∧ (last.rdropWhile isSpace).getLast? = some ':' then
        next :: blockTail next rest
      else []
    else if (isHard classes next ∨ isListContract next) ∧ ¬isListItem classes next then []
    else next :: blockTail next rest

end Lines

/-- The headings that a line is under. -/
abbrev Sections := List (ℕ × Text)

def Sections.push (sections : Sections) (level : ℕ) (title : Text) : Sections :=
  (sections.filter fun parent => parent.1 < level) ++ [(level, title)]

def Sections.anchor (sections : Sections) : Text :=
  (sections.getLast?.map Prod.snd).getD "preamble".toList

def Sections.under (sections : Sections) (opening : String) : Bool :=
  sections.any fun parent => opening.toList.isPrefixOf parent.2

def Sections.informative (sections : Sections) : Bool :=
  sections.under "43." || sections.under "Additional hardening"

def begins (classes : CharClasses) (sections : Sections) (line : Text) : Bool :=
  (isHard classes line ∨ isListContract line ∨
      (sections.under "C-" ∨ sections.under "34.") ∧ ¬line.all isSpace) ∧
    ¬sections.informative ∧ ¬isRule line ∧ ¬['|'].isPrefixOf line

structure Directive where
  sections : Sections
  start : ℕ
  block : List Text

/-- The loops of `extract`. Lines that a directive has taken are skipped. -/
def scan (classes : CharClasses) (skipped index : ℕ) (fenced : Bool) (sections : Sections) :
    List Text → List Directive
  | [] => []
  | line :: rest =>
    match skipped with
    | skipped + 1 => scan classes skipped (index + 1) fenced sections rest
    | 0 =>
      if isFence line then scan classes 0 (index + 1) (!fenced) sections rest
      else if fenced ∨ isQuotation line then scan classes 0 (index + 1) fenced sections rest
      else match heading line with
        | some (level, title) => scan classes 0 (index + 1) fenced (sections.push level title) rest
        | none =>
          if begins classes sections line then
            ⟨sections, index, line :: blockTail classes line rest⟩ ::
              scan classes (blockTail classes line rest).length (index + 1) fenced sections rest
          else scan classes 0 (index + 1) fenced sections rest

inductive DirectiveKind where
  | acceptance | constitutional | normative
  deriving DecidableEq

/-- An entry that `extract` returns. -/
structure Requirement where
  sourceAnchor : Text
  sourceLine : ℕ
  requirementText : Text
  textHash : String
  owningModule : String
  phase : ℕ
  kind : DirectiveKind
  deriving DecidableEq

/-- `owner`. -/
def owner (anchor : Text) : String × ℕ :=
  let «section» := ((anchor.takeWhile (· ≠ ' ')).rdropWhile (· = '.')).takeWhile (· ≠ '.')
  let among := fun names : List String => «section» ∈ names.map String.toList
  if among ["8", "10"] then ("inference", 2)
  else if among ["9", "29"] then ("scheduler", 3)
  else if among ["11", "12", "27", "28"] then ("research", 4)
  else if among ["13", "13A"] then ("data", 5)
  else if among ["17", "18", "38A"] then ("finance", 6)
  else if among ["14", "15", "16", "19", "20"] ∨ ['G'].isPrefixOf «section» then ("evaluation", 7)
  else if among ["21", "22", "23", "24"] then ("governance", 9)
  else if among ["31", "37", "38", "38B"] then ("operations", 10)
  else if among ["25", "26", "28A", "30", "32", "32A"] then ("risk_security_reliability", 11)
  else if among ["33", "34", "39", "40", "41", "42", "43A"] then ("acceptance", 12)
  else ("core", 1)

def Directive.text (directive : Directive) : Text := strip (intercalate ['\n'] directive.block)

def Directive.requirement (digest : Text → String) (directive : Directive) : Requirement where
  sourceAnchor := directive.sections.anchor
  sourceLine := directive.start + 1
  requirementText := directive.text
  textHash := digest directive.text
  owningModule := (owner directive.sections.anchor).1
  phase := (owner directive.sections.anchor).2
  kind := if directive.sections.under "34." then .acceptance
    else if directive.sections.under "C-" then .constitutional else .normative

/-- `extract`. -/
def extract (classes : CharClasses) (digest : Text → String) (text : Text) : List Requirement :=
  (scan classes 0 0 false [] (splitLines [] text)).map (Directive.requirement digest)

/-- How a reader sees the fences and the headings: whether the next line is inside a fence, and
the headings above it. -/
def readLine (seen : Bool × Sections) (line : Text) : Bool × Sections :=
  if isFence line then (!seen.1, seen.2)
  else if seen.1 then seen
  else match heading line with
    | some (level, title) => (seen.1, seen.2.push level title)
    | none => seen

def reading (lines : List Text) : Bool × Sections := lines.foldl readLine (false, [])

/-- A line outside the fences that is neither a fence nor a heading nor quoted. -/
def IsProse (before : List Text) (line : Text) : Prop :=
  (reading before).1 = false ∧ isFence line = false ∧ isQuotation line = false ∧ heading line = none

def FencesPair (classes : CharClasses) (lines : List Text) : Prop :=
  ∀ before line rest, lines = before ++ line :: rest → IsProse before line →
    begins classes (reading before).2 line = true →
      Even ((blockTail classes line rest).countP isFence)

structure Binding (classes : CharClasses) (before : List Text) (line : Text) : Prop where
  prose : IsProse before line
  hard : isHard classes line = true
  rule : isRule line = false
  row : ['|'].isPrefixOf line = false
  normative : (reading before).2.informative = false

def Directive.Spans (directive : Directive) (index : ℕ) : Prop :=
  directive.start ≤ index ∧ index < directive.start + directive.block.length

variable {classes : CharClasses} {lines before rest : List Text} {line : Text} {fenced : Bool}
  {sections : Sections} {index : ℕ}

theorem infix_dropWhile (inside : part <:+: whole) :
    part.dropWhile isSpace <:+: whole.dropWhile isSpace := by
  obtain ⟨front, back, rfl⟩ := inside
  rw [append_assoc, dropWhile_append]
  split
  · rw [dropWhile_append]
    split
    · next empty =>
      rw [isEmpty_iff.mp empty]
      exact nil_infix
    · exact (prefix_append _ _).isInfix
  · exact ((dropWhile_suffix _).isInfix.trans (prefix_append _ _).isInfix).trans
      (suffix_append _ _).isInfix

theorem infix_strip (inside : part <:+: whole) : strip part <:+: strip whole := by
  have front := infix_dropWhile inside
  rw [strip, strip, rdropWhile, rdropWhile, reverse_infix]
  exact infix_dropWhile ( reverse_infix.mpr front)

theorem infix_intercalate (held : line ∈ block) : line <:+: intercalate ['\n'] block := by
  induction block with
  | nil => exact absurd held not_mem_nil
  | cons first later ih =>
    cases later with
    | nil =>
      rw [mem_singleton.mp held, intercalate_singleton]
    | cons second later =>
      rw [intercalate_cons_cons]
      obtain rfl | held := mem_cons.mp held
      · exact ((prefix_append _ _).trans (prefix_append _ _)).isInfix
      · exact (ih held).trans (suffix_append _ _).isInfix

theorem blockTail_prefix (classes : CharClasses) (last : Text) (rest : List Text) :
    blockTail classes last rest <+: rest := by
  induction rest generalizing last with
  | nil => exact prefix_refl _
  | cons next rest ih =>
    rw [blockTail]
    split
    · exact nil_prefix
    · split
      · split
        · exact cons_prefix_cons.mpr ⟨rfl, ih next⟩
        · exact nil_prefix
      · split
        · exact nil_prefix
        · exact cons_prefix_cons.mpr ⟨rfl, ih next⟩

/-- No directive takes in a heading. -/
theorem heading_blockTail (last : Text) : ∀ next ∈ blockTail classes last rest, heading next = none := by
  induction rest generalizing last with
  | nil => exact fun _ absent => absurd absent not_mem_nil
  | cons next rest ih =>
    have kept (plain : ¬((heading next).isSome ∨ fence.isPrefixOf next ∨ isRule next ∨
        isQuotation next)) : ∀ other ∈ next :: blockTail classes next rest, heading other = none := by
      intro other held
      obtain rfl | held := mem_cons.mp held
      · exact Option.not_isSome_iff_eq_none.mp fun headed => plain (.inl headed)
      · exact ih next other held
    rw [blockTail]
    split
    · exact fun _ absent => absurd absent not_mem_nil
    · next plain =>
      split
      · split
        · exact kept plain
        · exact fun _ absent => absurd absent not_mem_nil
      · split
        · exact fun _ absent => absurd absent not_mem_nil
        · exact kept plain

/-- Lines without headings only toggle the fence. -/
theorem foldl_readLine (seen : Bool × Sections) (plain : ∀ line ∈ lines, heading line = none) :
    (lines.foldl readLine seen).2 = seen.2 ∧
      ((lines.foldl readLine seen).1 = seen.1 ↔ Even (lines.countP isFence)) := by
  induction lines generalizing seen with
  | nil => simp
  | cons line rest ih =>
    obtain ⟨same, parity⟩ := ih (readLine seen line) fun other held =>
      plain other (mem_cons_of_mem _ held)
    have headless := plain line mem_cons_self
    rw [foldl_cons, countP_cons, same]
    cases fence : isFence line with
    | true =>
      have moved : readLine seen line = (!seen.1, seen.2) := by rw [readLine, if_pos fence]
      rw [moved] at parity ⊢
      refine ⟨rfl, ?_⟩
      rw [if_pos rfl, even_add_one, ← parity]
      cases (foldl readLine (!seen.1, seen.2) rest).1 <;> cases seen.1 <;> simp
    | false =>
      have moved : readLine seen line = seen := by
        rw [readLine, if_neg (by simp [fence]), headless]
        split <;> rfl
      rw [moved] at parity ⊢
      exact ⟨rfl, by simpa using parity⟩

theorem reading_append (more : List Text) :
    reading (before ++ more) = more.foldl readLine (reading before) := foldl_append

theorem Binding.begins (binding : Binding classes before line) :
    begins classes (reading before).2 line = true := by
  simp [Requirements.begins, binding.hard, binding.normative, binding.rule, binding.row]

theorem heading_of_isQuotation (quoted : isQuotation line = true) : heading line = none := by
  cases line with
  | nil => rfl
  | cons char rest =>
    have mark : '>' = char := by simpa [isQuotation] using quoted
    simp [heading, ← mark]

theorem scan_cons (classes : CharClasses) (index : ℕ) (fenced : Bool) (sections : Sections)
    (line : Text) (rest : List Text) :
    (∃ fenced' sections', readLine (fenced, sections) line = (fenced', sections') ∧
      scan classes 0 index fenced sections (line :: rest) =
        scan classes 0 (index + 1) fenced' sections' rest ∧
      ¬(fenced = false ∧ isFence line = false ∧ isQuotation line = false ∧ heading line = none ∧
        begins classes sections line = true)) ∨
    (fenced = false ∧ isFence line = false ∧ isQuotation line = false ∧ heading line = none ∧
      begins classes sections line = true ∧
      scan classes 0 index fenced sections (line :: rest) =
        ⟨sections, index, line :: blockTail classes line rest⟩ ::
          scan classes (blockTail classes line rest).length (index + 1) fenced sections rest) := by
  by_cases fence : isFence line = true
  · exact .inl ⟨!fenced, sections, if_pos fence, if_pos fence, by simp [fence]⟩
  by_cases aside : fenced = true ∨ isQuotation line = true
  · refine .inl ⟨fenced, sections, ?_, by rw [scan, if_neg fence, if_pos aside], by grind⟩
    rw [readLine, if_neg fence]
    obtain inside | quoted := aside
    · exact if_pos inside
    · rw [heading_of_isQuotation quoted]
      exact ite_self _
  obtain ⟨outside, unquoted⟩ := not_or.mp aside
  cases headed : heading line with
  | some title =>
    refine .inl ⟨fenced, sections.push title.1 title.2, ?_, ?_, by simp⟩
    · rw [readLine, if_neg fence, if_neg outside, headed]
    · rw [scan, if_neg fence, if_neg aside, headed]
  | none =>
    have read : readLine (fenced, sections) line = (fenced, sections) := by
      rw [readLine, if_neg fence, if_neg outside, headed]
    by_cases begun : begins classes sections line = true
    · refine .inr ⟨by simpa using outside, by simpa using fence, by simpa using unquoted, rfl,
        begun, ?_⟩
      rw [scan, if_neg fence, if_neg aside, headed, if_pos begun]
    · refine .inl ⟨fenced, sections, read, ?_, by simp [begun]⟩
      rw [scan, if_neg fence, if_neg aside, headed, if_neg begun]

theorem start_of_scan (skipped : ℕ) (directive : Directive)
    (held : directive ∈ scan classes skipped index fenced sections lines) :
    index + skipped ≤ directive.start := by
  induction lines generalizing skipped index fenced sections with
  | nil => exact absurd held not_mem_nil
  | cons line rest ih =>
    cases skipped with
    | succ skipped =>
      have later := ih skipped (by rwa [scan] at held)
      omega
    | zero =>
      obtain ⟨fenced', sections', -, same, -⟩ | ⟨-, -, -, -, -, same⟩ :=
        scan_cons classes index fenced sections line rest
      · have later := ih 0 (same ▸ held)
        omega
      · rw [same] at held
        obtain rfl | held := mem_cons.mp held
        · exact le_refl _
        · have later := ih _ held
          omega

/-- No two directives share a line. -/
theorem scan_apart (skipped : ℕ) : (scan classes skipped index fenced sections lines).Pairwise
    fun first second => first.start + first.block.length ≤ second.start := by
  induction lines generalizing skipped index fenced sections with
  | nil => exact List.Pairwise.nil
  | cons line rest ih =>
    cases skipped with
    | succ skipped =>
      rw [scan]
      exact ih skipped
    | zero =>
      obtain ⟨fenced', sections', -, same, -⟩ | ⟨-, -, -, -, -, same⟩ :=
        scan_cons classes index fenced sections line rest
      · rw [same]
        exact ih 0
      · rw [same]
        refine pairwise_cons.mpr ⟨fun second held => ?_, ih _⟩
        have later := start_of_scan _ second held
        simp only [length_cons]
        omega

theorem scan_takes {inner : List Text} (skipped : ℕ) (split : lines = before ++ remaining)
    (pairs : FencesPair classes lines)
    (together : reading (before ++ remaining.take skipped) = (fenced, sections))
    (place : remaining = inner ++ line :: rest) (ahead : skipped ≤ inner.length)
    (binding : Binding classes (before ++ inner) line) :
    ∃ directive ∈ scan classes skipped before.length fenced sections remaining,
      directive.Spans (before ++ inner).length ∧ line ∈ directive.block ∧
      directive.sections = (reading (before ++ inner)).2 := by
  induction remaining generalizing skipped before fenced sections inner with
  | nil => simp at place
  | cons first later ih =>
    have shifted : lines = (before ++ [first]) ++ later := by rw [split, append_assoc]; rfl
    -- What the induction gives for a line that is not the first one.
    have further (skipped) {fenced sections inner'} (same : inner = first :: inner')
        (together : reading (before ++ [first] ++ later.take skipped) = (fenced, sections))
        (ahead : skipped ≤ inner'.length) :
        ∃ directive ∈ scan classes skipped (before.length + 1) fenced sections later,
          directive.Spans (before ++ inner).length ∧ line ∈ directive.block ∧
          directive.sections = (reading (before ++ inner)).2 := by
      have gathered : before ++ inner = before ++ [first] ++ inner' := by
        rw [same, append_assoc]; rfl
      rw [gathered] at binding ⊢
      have onward : later = inner' ++ line :: rest := by simpa [same] using place
      simpa using ih skipped shifted together onward ahead binding
    cases skipped with
    | succ skipped =>
      obtain - | ⟨other, inner'⟩ := inner
      · simp at ahead
      obtain ⟨rfl, -⟩ := cons.inj place
      rw [scan]
      exact further _ rfl (by simpa using together) (by simpa using ahead)
    | zero =>
      have here : reading before = (fenced, sections) := by simpa using together
      have moved : reading (before ++ [first]) = readLine (fenced, sections) first := by
        rw [reading_append, here]; rfl
      obtain ⟨fenced', sections', read, same, idle⟩ | ⟨outside, unfenced, unquoted, headless, begun,
          same⟩ := scan_cons classes before.length fenced sections first later
      · obtain - | ⟨other, inner'⟩ := inner
        · obtain ⟨rfl, -⟩ := cons.inj place
          rw [append_nil] at binding
          have begun := binding.begins
          obtain ⟨outside, unfenced, unquoted, headless⟩ := binding.prose
          rw [here] at begun outside
          exact absurd ⟨outside, unfenced, unquoted, headless, begun⟩ idle
        · obtain ⟨rfl, -⟩ := cons.inj place
          rw [same]
          exact further _ rfl (by rw [take_zero, append_nil, moved, read]) (Nat.zero_le _)
      · have shape := blockTail_prefix classes first later
        rw [same]
        by_cases within : inner.length ≤ (blockTail classes first later).length
        · -- The directive takes in the line, and no heading before it.
          have taken : inner ++ [line] <+: first :: blockTail classes first later := by
            have whole : inner ++ [line] <+: first :: later := by
              rw [place]
              exact (prefix_append_right_inj _).mpr (prefix_append [line] rest)
            exact prefix_of_prefix_length_le whole (cons_prefix_cons.mpr ⟨rfl, shape⟩)
              (by simpa using within)
          have plain : ∀ next ∈ inner, heading next = none := by
            intro next held
            obtain rfl | held := mem_cons.mp (taken.subset (mem_append_left _ held))
            · exact headless
            · exact heading_blockTail first next held
          refine ⟨_, mem_cons_self, ⟨by simp, ?_⟩, taken.subset (by simp), ?_⟩
          · simp only [length_append, length_cons]
            omega
          · rw [reading_append, here, (foldl_readLine _ plain).1]
        · -- The directive ends before the line, and took in fences by pairs.
          obtain - | ⟨other, inner'⟩ := inner
          · simp at within
          obtain ⟨rfl, -⟩ := cons.inj place
          have even := pairs before first later split
            ⟨by rw [here]; exact outside, unfenced, unquoted, headless⟩ (by rw [here]; exact begun)
          obtain ⟨kept, parity⟩ := foldl_readLine (fenced, sections) (heading_blockTail first)
          have read : readLine (fenced, sections) first = (fenced, sections) := by
            simp [readLine, unfenced, outside, headless]
          have paired : reading (before ++ [first] ++ later.take (blockTail classes first later).length) =
              (fenced, sections) := by
            rw [reading_append, moved, read, ← prefix_iff_eq_take.mp shape]
            exact Prod.ext (parity.mpr even) kept
          obtain ⟨directive, held, found⟩ := further _ rfl paired (by simpa [Nat.lt_succ_iff] using within)
          exact ⟨directive, mem_cons_of_mem _ held, found⟩

/-- The line after the lines before is in exactly one entry, which names the heading above it. -/
def HeldOnce (classes : CharClasses) (digest : Text → String) (text : Text) (before : List Text)
    (line : Text) : Prop :=
  ∃ (place : ℕ) (directive : Directive),
    (scan classes 0 0 false [] (splitLines [] text))[place]? = some directive ∧
    (extract classes digest text)[place]? = some (directive.requirement digest) ∧
    directive.Spans before.length ∧ strip line <:+: (directive.requirement digest).requirementText ∧
    (directive.requirement digest).sourceAnchor = (reading before).2.anchor ∧
    ∀ (other : ℕ) (second : Directive),
      (scan classes 0 0 false [] (splitLines [] text))[other]? = some second →
      second.Spans before.length → other = place

theorem binding_held_once (classes : CharClasses) (digest : Text → String) (text : Text)
    (pairs : FencesPair classes (splitLines [] text)) (before rest : List Text) (line : Text)
    (split : splitLines [] text = before ++ line :: rest) (binding : Binding classes before line) :
    HeldOnce classes digest text before line := by
  obtain ⟨directive, held, spans, inside, anchored⟩ :=
    scan_takes 0 (List.nil_append _).symm pairs rfl split (zero_le _) binding
  obtain ⟨place, found⟩ := List.getElem?_of_mem held
  refine ⟨place, directive, found, ?_, spans, infix_strip (infix_intercalate inside),
    congrArg Sections.anchor anchored, fun other second found' spans' => ?_⟩
  · rw [extract, List.getElem?_map]
    exact congrArg _ found
  · obtain ⟨near, rfl⟩ := List.getElem?_eq_some_iff.mp found
    obtain ⟨near', rfl⟩ := List.getElem?_eq_some_iff.mp found'
    have disjoint : (scan classes 0 0 false [] (splitLines [] text)).Pairwise _ := scan_apart 0
    have apart := List.pairwise_iff_getElem.mp disjoint
    obtain less | same | more := lt_trichotomy other place
    · have := apart _ _ near' near less
      exact absurd (spans'.2.trans_le (this.trans spans.1)) (lt_irrefl _)
    · exact same
    · have := apart _ _ near near' more
      exact absurd (spans.2.trans_le (this.trans spans'.1)) (lt_irrefl _)

theorem fencesPair_of_places (pairs : ∀ place < lines.length,
    IsProse (lines.take place) (lines.getD place []) →
    begins classes (reading (lines.take place)).2 (lines.getD place []) = true →
    Even ((blockTail classes (lines.getD place []) (lines.drop (place + 1))).countP isFence)) :
    FencesPair classes lines := by
  rintro before line rest rfl prose begun
  have here := pairs before.length (by simp)
  simp only [take_left', getD_eq_getElem?_getD, getElem?_append_right le_rfl,
    Nat.sub_self, getElem?_cons_zero, Option.getD_some,
    ← drop_drop, drop_left', drop_succ_cons, drop_zero] at here
  exact here prose begun

instance (before : List Text) (line : Text) : Decidable (IsProse before line) :=
  inferInstanceAs (Decidable (_ ∧ _))

def asciiClasses : CharClasses := ⟨fun char => char.isAlphanum || char = '_', Char.isDigit⟩

def fencedText : Text := "# 8. Log\nIt MUST log:\n  ```\ncode\n  ```\nIt MUST stop.".toList

theorem binding_held_once_fenced :
    HeldOnce asciiClasses String.ofList fencedText ((splitLines [] fencedText).take 5)
      "It MUST stop.".toList :=
  binding_held_once _ _ _ (fencesPair_of_places (by decide +kernel)) _ [] _ (by decide +kernel)
    ⟨by decide +kernel, by decide +kernel, by decide +kernel, by decide +kernel, by decide +kernel⟩

/-- The blank line ends the directive between the fence that opens and the one that closes. -/
def blankText : Text := "It MUST log:\n  ```\ncode\n\n  ```\nIt MUST stop.".toList

theorem blank_line_loses_fence :
    (reading (splitLines [] blankText)).1 = false ∧
    Binding asciiClasses ((splitLines [] blankText).take 5) "It MUST stop.".toList ∧
    splitLines [] blankText = (splitLines [] blankText).take 5 ++ ["It MUST stop.".toList] ∧
    ¬HeldOnce asciiClasses String.ofList blankText ((splitLines [] blankText).take 5)
      "It MUST stop.".toList := by
  refine ⟨by decide +kernel, ⟨by decide +kernel, by decide +kernel, by decide +kernel,
    by decide +kernel, by decide +kernel⟩, by decide +kernel, ?_⟩
  rintro ⟨place, directive, found, -, ⟨-, until_end⟩, -⟩
  have early : ∀ directive ∈ scan asciiClasses 0 0 false [] (splitLines [] blankText),
      directive.start + directive.block.length ≤ 5 := by decide +kernel
  have short : ((splitLines [] blankText).take 5).length = 5 := by decide +kernel
  have := early directive (mem_of_getElem? found)
  omega

end Liki.Requirements
