import LeddyRaspPi.Agent.Packets
import LeddyRaspPi.Helper.Viewport
import Mathlib.Data.List.TakeWhile

/-!
# How the helper is configured

`env_int` takes a variable for an integer if it is one as `std::stoi` reads it, to its end and within
its bounds (`envInt_ok_iff`); a variable that is missing or empty stands for its fallback. The helper
serves its input if the four variables are set that way and the canvas they make is large enough for
the largest viewport, and otherwise returns 1 before it has read anything (`main_serves_iff`).
-/

namespace LeddyRaspPi.Helper

open Fallible

/-! ## Integers -/

/-- What `std::stoi` skips. -/
def blanks : List Char := [' ', '\t', '\n', '\x0b', '\x0c', '\r']

/-- A sign, and the factor it stands for. -/
inductive Sign : List Char → Int → Prop where
  | none : Sign [] 1
  | plus : Sign ['+'] 1
  | minus : Sign ['-'] (-1)

/-- The text of an integer: blanks, a sign and digits. -/
inductive Literal : List Char → Int → Prop where
  | intro {spaces sign digits : List Char} {factor : Int} (hspaces : ∀ c ∈ spaces, c ∈ blanks)
    (hsign : Sign sign factor) (hnonempty : digits ≠ [])
    (hdigits : ∀ c ∈ digits, c.isDigit = true) :
    Literal (spaces ++ (sign ++ digits)) (factor * (Nat.ofDigitChars 10 digits 0 : Nat))

/-- The number of a list of digits, as `stoi` computes it. -/
theorem foldl_digits {digits : List Char} (h : ∀ c ∈ digits, c.isDigit = true) (n : Nat) :
    digits.foldl (fun (n : Int) c => 10 * n + (c.toNat - '0'.toNat)) n =
      (Nat.ofDigitChars 10 digits n : Nat) := by
  induction digits generalizing n with
  | nil => rfl
  | cons c digits ih =>
    have hc : '0'.toNat ≤ c.toNat := (Char.isDigit_iff_toNat.1 (h c List.mem_cons_self)).1
    rw [List.foldl_cons, Nat.ofDigitChars_cons, ← ih fun d hd => h d (List.mem_cons_of_mem c hd)]
    congr 1
    omega

/-- A digit is neither a blank nor a sign. -/
theorem isDigit_apart {c : Char} (h : c.isDigit = true) : c ∉ blanks ∧ c ≠ '-' ∧ c ≠ '+' := by
  have hapart : ('-' :: '+' :: blanks).all (fun d => !d.isDigit) = true := rfl
  have hnot : c ∉ '-' :: '+' :: blanks := by
    intro hmem
    have hdigit := List.all_eq_true.1 hapart c hmem
    rw [h] at hdigit
    exact Bool.false_ne_true hdigit
  simp only [List.mem_cons, not_or] at hnot
  exact ⟨hnot.2.2, hnot.1, hnot.2.1⟩

/-- A text of digits with a sign starts with no blank. -/
theorem Sign.dropWhile_blanks {sign digits : List Char} {factor : Int} (hsign : Sign sign factor)
    (hdigits : ∀ c ∈ digits, c.isDigit = true) :
    (sign ++ digits).dropWhile (· ∈ blanks) = sign ++ digits := by
  have hhead : ∀ c rest, sign ++ digits = c :: rest → c ∉ blanks := by
    intro c rest heq
    cases hsign with
    | none =>
      rw [List.nil_append] at heq
      exact (isDigit_apart (hdigits c (heq ▸ List.mem_cons_self))).1
    | plus => cases heq; decide
    | minus => cases heq; decide
  cases heq : sign ++ digits with
  | nil => rfl
  | cons c rest => exact List.dropWhile_cons_of_neg (by simpa using hhead c rest heq)

/-- A text is a sign and what follows it. Only behind a sign may another one follow. -/
inductive Signed : List Char → Int → List Char → Prop where
  | intro {sign unsigned : List Char} {factor : Int} (hsign : Sign sign factor)
    (honly : sign = [] → ∀ c ∈ unsigned.head?, c ≠ '-' ∧ c ≠ '+') :
    Signed (sign ++ unsigned) factor unsigned

/-- Every text is one, with or without a sign. -/
theorem exists_signed (raw : List Char) : ∃ factor unsigned, Signed raw factor unsigned := by
  cases raw with
  | nil => exact ⟨1, [], .intro .none fun _ c hc => by cases hc⟩
  | cons c rest =>
    by_cases hminus : c = '-'
    · subst hminus
      exact ⟨-1, rest, .intro .minus fun h => by cases h⟩
    · by_cases hplus : c = '+'
      · subst hplus
        exact ⟨1, rest, .intro .plus fun h => by cases h⟩
      · refine ⟨1, c :: rest, .intro .none fun _ d hd => ?_⟩
        cases hd
        exact ⟨hminus, hplus⟩

/-- What `std::stoi` makes of a text, by its blanks, sign and digits. -/
theorem stoi_eq {raw unsigned : List Char} {factor value : Int}
    (hsigned : Signed (raw.dropWhile (· ∈ blanks)) factor unsigned)
    (hvalue : value = factor * (Nat.ofDigitChars 10 (unsigned.takeWhile Char.isDigit) 0 : Nat)) :
    stoi raw =
      if (unsigned.takeWhile Char.isDigit).isEmpty ∨ value < -2 ^ 31 ∨ 2 ^ 31 ≤ value then
        .error ⟨"stoi"⟩
      else .ok (value, unsigned.dropWhile Char.isDigit) := by
  have hdigits : (unsigned.takeWhile Char.isDigit).foldl
      (fun (n : Int) c => 10 * n + (c.toNat - '0'.toNat)) 0 =
        (Nat.ofDigitChars 10 (unsigned.takeWhile Char.isDigit) 0 : Nat) :=
    foldl_digits (fun c hc => List.all_eq_true.1 List.all_takeWhile c hc) 0
  generalize hraw : raw.dropWhile (· ∈ blanks) = unspaced at hsigned
  have hraw' : raw.dropWhile (· ∈ [' ', '\t', '\n', '\x0b', '\x0c', '\r']) = unspaced := hraw
  unfold stoi
  rw [hraw', hvalue]
  obtain ⟨hsign, honly⟩ := hsigned
  cases hsign with
  | none =>
    rw [List.nil_append]
    extract_lets unspaced
    split
    next negative rest heq =>
    have hpair : (negative, rest) = (false, unsigned) := by
      rw [← heq]
      cases unsigned with
      | nil => rfl
      | cons c rest =>
        obtain ⟨hminus, hplus⟩ := honly rfl c rfl
        simp [unspaced, hminus, hplus]
    cases hpair
    simp only [hdigits, Bool.false_eq_true, if_false, Int.one_mul]
  | plus => simp only [List.singleton_append, hdigits, Bool.false_eq_true, if_false, Int.one_mul]
  | minus => simp only [List.singleton_append, hdigits, if_true, Int.neg_mul, Int.one_mul]

/-- `std::stoi` reads a text to its end exactly if it is that of an integer an `int` can hold. -/
theorem stoi_ok_iff {raw : List Char} {n : Int} :
    stoi raw = .ok (n, []) ↔ Literal raw n ∧ -2 ^ 31 ≤ n ∧ n < 2 ^ 31 := by
  constructor
  · intro h
    obtain ⟨factor, unsigned, hsigned⟩ := exists_signed (raw.dropWhile (· ∈ blanks))
    rw [stoi_eq hsigned rfl] at h
    split at h
    · cases h
    · next hread =>
      obtain ⟨hn, hrest⟩ := Prod.mk.inj (Except.ok.inj h)
      have hall : unsigned.takeWhile Char.isDigit = unsigned := by
        have happend := List.takeWhile_append_dropWhile (p := Char.isDigit) (l := unsigned)
        rwa [hrest, List.append_nil] at happend
      have hspaces : ∀ c ∈ raw.takeWhile (· ∈ blanks), c ∈ blanks := fun c hc => by
        simpa using List.all_eq_true.1 List.all_takeWhile c hc
      have hraw : raw = raw.takeWhile (· ∈ blanks) ++ raw.dropWhile (· ∈ blanks) :=
        List.takeWhile_append_dropWhile.symm
      generalize raw.dropWhile (· ∈ blanks) = unspaced at hsigned hraw
      obtain ⟨hsign, -⟩ := hsigned
      rw [hall] at hn hread
      subst hn
      refine ⟨hraw ▸ .intro hspaces hsign (by simpa using mt Or.inl hread) ?_, by omega, by omega⟩
      exact fun c hc => List.all_eq_true.1 List.all_takeWhile c (hall.symm ▸ hc)
  · rintro ⟨hliteral, hlow, hhigh⟩
    obtain @⟨spaces, sign, digits, factor, hspaces, hsign, hnonempty, hdigits⟩ := hliteral
    have hunspaced : (spaces ++ (sign ++ digits)).dropWhile (· ∈ blanks) = sign ++ digits := by
      rw [List.dropWhile_append_of_pos fun c hc => by simpa using hspaces c hc]
      exact hsign.dropWhile_blanks hdigits
    have hsigned : Signed (sign ++ digits) factor digits :=
      .intro hsign fun _ c hc => (isDigit_apart (hdigits c (List.mem_of_mem_head? hc))).2
    have htake : digits.takeWhile Char.isDigit = digits := List.takeWhile_eq_self_iff.2 hdigits
    have hdrop : digits.dropWhile Char.isDigit = [] := List.dropWhile_eq_nil_iff.2 hdigits
    rw [← hunspaced] at hsigned
    rw [stoi_eq hsigned rfl, htake, hdrop, if_neg]
    rw [List.isEmpty_iff]
    rintro (hnil | hless | hmore)
    · exact hnonempty hnil
    · omega
    · omega

/-! ## Variables -/

/-- What a variable of the environment sets an option to. -/
inductive Setting (getenv : String → Option String) (name : String)
    (fallback minimum maximum : Int) : Int → Prop where
  | missing (hget : getenv name = none) : Setting getenv name fallback minimum maximum fallback
  | empty (hget : getenv name = some "") : Setting getenv name fallback minimum maximum fallback
  | literal {raw : String} {n : Int} (hget : getenv name = some raw) (hliteral : Literal raw.toList n)
    (hmin : minimum ≤ n) (hmax : n ≤ maximum) : Setting getenv name fallback minimum maximum n

section
variable {getenv : String → Option String} {name : String} {fallback minimum maximum n : Int}

/-- No text is both empty and that of an integer. -/
theorem Literal.ne_nil {raw : List Char} (h : Literal raw n) : raw ≠ [] := by
  obtain ⟨-, -, hnonempty, -⟩ := h
  simp [hnonempty]

/-- `env_int` on a variable that is not empty. -/
theorem envInt_literal {raw : String} (hlow : -2 ^ 31 ≤ minimum) (hhigh : maximum < 2 ^ 31)
    (hget : getenv name = some raw) (hraw : raw ≠ "") :
    envInt getenv name fallback minimum maximum = .ok n ↔
      Literal raw.toList n ∧ minimum ≤ n ∧ n ≤ maximum := by
  have hempty : ¬ raw.isEmpty = true := mt String.isEmpty_iff.1 hraw
  unfold envInt
  rw [hget]
  dsimp only
  rw [if_neg hempty]
  constructor
  · intro h
    cases hstoi : stoi raw.toList with
    | error error => rw [hstoi] at h; cases h
    | ok read =>
      obtain ⟨value, rest⟩ := read
      rw [hstoi] at h
      by_cases hbad : ¬ rest.isEmpty = true ∨ value < minimum ∨ value > maximum
      · simp only [bind, Except.bind, if_pos hbad] at h
        cases h
      · simp only [bind, Except.bind, if_neg hbad] at h
        cases h
        simp only [not_or, not_not, List.isEmpty_iff] at hbad
        obtain ⟨rfl, hmin, hmax⟩ := hbad
        exact ⟨(stoi_ok_iff.1 hstoi).1, by omega, by omega⟩
  · rintro ⟨hliteral, hmin, hmax⟩
    rw [stoi_ok_iff.2 ⟨hliteral, by omega, by omega⟩]
    simp only [bind, Except.bind]
    rw [if_neg]
    · rfl
    · simp only [List.isEmpty_nil, not_true_eq_false, false_or]
      omega

/-- `env_int` returns what the variable is set to, if an `int` can hold its bounds. -/
theorem envInt_ok_iff (hlow : -2 ^ 31 ≤ minimum) (hhigh : maximum < 2 ^ 31) :
    envInt getenv name fallback minimum maximum = .ok n ↔
      Setting getenv name fallback minimum maximum n := by
  cases hget : getenv name with
  | none =>
    have hread : envInt getenv name fallback minimum maximum = .ok fallback := by
      rw [envInt, hget]
    rw [hread]
    constructor
    · intro h
      cases h
      exact .missing hget
    · rintro (_ | _ | ⟨hget', -, -, -⟩)
      · rfl
      · rfl
      · cases hget.symm.trans hget'
  | some raw =>
    by_cases hraw : raw = ""
    · subst hraw
      have hread : envInt getenv name fallback minimum maximum = .ok fallback := by
        rw [envInt, hget]
        rfl
      rw [hread]
      constructor
      · intro h
        cases h
        exact .empty hget
      · rintro (_ | _ | ⟨hget', hliteral, -, -⟩)
        · rfl
        · rfl
        · cases hget.symm.trans hget'
          exact absurd rfl hliteral.ne_nil
    · rw [envInt_literal hlow hhigh hget hraw]
      constructor
      · rintro ⟨hliteral, hmin, hmax⟩
        exact .literal hget hliteral hmin hmax
      · rintro (hget' | hget' | ⟨hget', hliteral, hmin, hmax⟩)
        · cases hget.symm.trans hget'
        · cases hget.symm.trans hget'
          exact absurd rfl hraw
        · cases hget.symm.trans hget'
          exact ⟨hliteral, hmin, hmax⟩

/-- The four variables set these options. -/
structure Configured (getenv : String → Option String) (options : Options) : Prop where
  rows : Setting getenv "LEDDY_HUB75_ROWS" 32 1 128 options.rows
  cols : Setting getenv "LEDDY_HUB75_COLS" 64 1 256 options.cols
  chainLength : Setting getenv "LEDDY_HUB75_CHAIN" 5 1 32 options.chainLength
  parallel : Setting getenv "LEDDY_HUB75_PARALLEL" 1 1 3 options.parallel

/-- The part of `main` that reads the environment reads the options it sets. -/
theorem readOptions_ok_iff {options : Options} :
    readOptions getenv = .ok options ↔ Configured getenv options := by
  unfold readOptions
  simp only [bind_ok_iff]
  constructor
  · rintro ⟨rows, hrows, cols, hcols, chainLength, hchain, parallel, hparallel, heq⟩
    cases heq
    exact ⟨(envInt_ok_iff (by decide) (by decide)).1 hrows,
      (envInt_ok_iff (by decide) (by decide)).1 hcols,
      (envInt_ok_iff (by decide) (by decide)).1 hchain,
      (envInt_ok_iff (by decide) (by decide)).1 hparallel⟩
  · intro h
    exact ⟨_, (envInt_ok_iff (by decide) (by decide)).2 h.rows,
      _, (envInt_ok_iff (by decide) (by decide)).2 h.cols,
      _, (envInt_ok_iff (by decide) (by decide)).2 h.chainLength,
      _, (envInt_ok_iff (by decide) (by decide)).2 h.parallel, rfl⟩

/-- Given a stream of packets, the helper returns 0 exactly if the environment sets its options, the
driver makes a matrix of them, and their canvas is large enough. Otherwise it returns 1, with nothing
shown or a black canvas. -/
theorem main_serves_iff (getenv : String → Option String) (created : Bool)
    (pixels : Nat → Int → Int → Rgb) (stop : Nat → Bool) {packets : List FramePacket}
    (hwf : ∀ packet ∈ packets, packet.WellFormed) {fuel : Nat}
    (hfuel : (packetCode.stream packets).length < fuel) {run : Run}
    (hrun : run = main getenv created pixels stop (packetCode.stream packets) fuel) :
    (run.exit = .status 0 ↔
        created = true ∧ ∃ options, Configured getenv options ∧ options.Fits) ∧
      (run.exit ≠ .status 0 → run.exit = .status 1 ∧
        ∀ canvas ∈ run.shown, ∃ options : Options, canvas = options.black) := by
  cases hoptions : readOptions getenv with
  | error error =>
    obtain rfl : run = ⟨.status 1, []⟩ := by rw [hrun]; simp only [main, hoptions]
    refine ⟨iff_of_false (by decide) ?_, fun _ => ⟨rfl, fun _ h => absurd h List.not_mem_nil⟩⟩
    rintro ⟨-, options, hconfigured, -⟩
    cases hoptions.symm.trans (readOptions_ok_iff.2 hconfigured)
  | ok options =>
    cases created with
    | false =>
      obtain rfl : run = ⟨.status 1, []⟩ := by rw [hrun]; simp [main, hoptions]
      exact ⟨iff_of_false (by decide) fun h => Bool.false_ne_true h.1,
        fun _ => ⟨rfl, fun _ h => absurd h List.not_mem_nil⟩⟩
    | true =>
      by_cases hfits : options.Fits
      · have hexit : run.exit = .status 0 := hrun ▸ main_stream hoptions hfits pixels stop hwf hfuel
        exact ⟨iff_of_true hexit ⟨rfl, options, readOptions_ok_iff.1 hoptions, hfits⟩,
          fun hne => absurd hexit hne⟩
      · obtain rfl : run = ⟨.status 1, [options.black]⟩ := hrun.trans (main_unfit hoptions hfits ..)
        refine ⟨iff_of_false (fun h => by cases h) ?_, fun _ => ⟨rfl, fun canvas h => ⟨options, ?_⟩⟩⟩
        · rintro ⟨-, options', hconfigured, hfits'⟩
          cases hoptions.symm.trans (readOptions_ok_iff.2 hconfigured)
          exact hfits hfits'
        · exact List.mem_singleton.1 h

end

/-! ## An example -/

/-- A chain of panels with more columns, set with blanks and a sign. -/
def wideEnvironment : String → Option String := fun name =>
  if name = "LEDDY_HUB75_COLS" then some " +100" else none

/-- The chain is read as wide as it is, it fits, and the packet is served. -/
theorem main_serves_iff_wide :
    ((main wideEnvironment true (fun _ _ _ => ⟨9, 9, 9⟩) (fun _ => false)
          (packetCode.stream [sampleReader.packet]) 30).exit = .status 0 ↔
        true = true ∧ ∃ options, Configured wideEnvironment options ∧ options.Fits) ∧
      ((main wideEnvironment true (fun _ _ _ => ⟨9, 9, 9⟩) (fun _ => false)
          (packetCode.stream [sampleReader.packet]) 30).exit ≠ .status 0 →
        (main wideEnvironment true (fun _ _ _ => ⟨9, 9, 9⟩) (fun _ => false)
          (packetCode.stream [sampleReader.packet]) 30).exit = .status 1 ∧
        ∀ canvas ∈ (main wideEnvironment true (fun _ _ _ => ⟨9, 9, 9⟩) (fun _ => false)
          (packetCode.stream [sampleReader.packet]) 30).shown,
            ∃ options : Options, canvas = options.black) := by
  have hwf : sampleReader.packet.WellFormed := ⟨by decide, by decide, by decide, rfl⟩
  exact main_serves_iff _ _ _ _ (fun packet h => List.mem_singleton.1 h ▸ hwf) (by decide) rfl

end LeddyRaspPi.Helper
