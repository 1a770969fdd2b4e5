import Adventure.Command.Dispatch
import Adventure.Proofs.Number.Reading
import Adventure.Proofs.Text.Case

/-! Reading `talk` commands: a name whose words are singly spaced reads as itself trimmed, and
its lower case, which talking suggests, reads back as a name of the same words in lower case. -/

namespace Adventure

open Adventure.Number

namespace Text

/-- A word as the command line reads it: some characters, none of them blank. -/
def Solid (w : List Char) : Prop := w ≠ [] ∧ ∀ c ∈ w, isBlank c = false

/-- A blank ends the word read so far; what follows is read afresh. -/
theorem wordsFrom_append_blank {c : Char} (hc : isBlank c = true) (ys : List Char) :
    ∀ (cur xs : List Char), wordsFrom cur (xs ++ c :: ys) = wordsFrom cur xs ++ wordsFrom [] ys
  | cur, [] => by
    cases cur <;> simp [wordsFrom, hc]
  | cur, x :: xs => by
    by_cases hx : isBlank x = true
    · cases cur <;> simp [wordsFrom, hx, wordsFrom_append_blank hc ys [] xs]
    · simp [wordsFrom, hx, wordsFrom_append_blank hc ys (x :: cur) xs]

/-- Characters none of which is blank are read as one word, with the word read so far. -/
theorem wordsFrom_solid :
    ∀ (cur cs : List Char), (∀ c ∈ cs, isBlank c = false) → cur ++ cs ≠ [] →
      wordsFrom cur cs = [cur.reverse ++ cs]
  | cur, [], _, hne => by
    cases cur with
    | nil => simp at hne
    | cons c cur => simp [wordsFrom]
  | cur, c :: cs, hsolid, _ => by
    have hc : isBlank c = false := hsolid c List.mem_cons_self
    rw [wordsFrom, if_neg (by simp [hc]),
      wordsFrom_solid (c :: cur) cs (fun d hd => hsolid d (List.mem_cons_of_mem c hd)) (by simp)]
    simp

/-- A solid word is its only word. -/
theorem words_solid {w : String} (h : Solid w.toList) : words w = [w] := by
  unfold words
  rw [wordsFrom_solid [] w.toList h.2 (by simpa using h.1)]
  simp

/-- The words of two texts joined by a space are the words of each. -/
theorem words_append_space (a b : String) : words (a ++ " " ++ b) = words a ++ words b := by
  unfold words
  have hspace : isBlank ' ' = true := by decide
  simp only [String.toList_append, List.append_assoc]
  rw [show " ".toList ++ b.toList = ' ' :: b.toList from rfl,
    wordsFrom_append_blank hspace b.toList [] a.toList, List.map_append]

/-- Every word read is solid, when the word read so far has no blank. -/
theorem solid_of_mem_wordsFrom :
    ∀ (cur cs : List Char), (∀ c ∈ cur, isBlank c = false) → ∀ w ∈ wordsFrom cur cs, Solid w
  | cur, [], hcur, w, hw => by
    cases cur with
    | nil => simp [wordsFrom] at hw
    | cons c cur =>
      simp only [wordsFrom, List.isEmpty_cons, Bool.false_eq_true, if_false,
        List.mem_singleton] at hw
      subst hw
      exact ⟨by simp, fun d hd => hcur d (List.mem_reverse.mp hd)⟩
  | cur, c :: cs, hcur, w, hw => by
    by_cases hc : isBlank c = true
    · have hrest := solid_of_mem_wordsFrom [] cs (by simp) w
      cases cur with
      | nil => simp only [wordsFrom, hc, if_true, List.isEmpty_nil] at hw; exact hrest hw
      | cons d cur =>
        simp only [wordsFrom, hc, if_true, List.isEmpty_cons, Bool.false_eq_true, if_false,
          List.mem_cons] at hw
        rcases hw with rfl | hw
        · exact ⟨by simp, fun e he => hcur e (List.mem_reverse.mp he)⟩
        · exact hrest hw
    · simp only [wordsFrom, hc, Bool.false_eq_true, if_false] at hw
      refine solid_of_mem_wordsFrom (c :: cur) cs ?_ w hw
      intro d hd
      rcases List.mem_cons.mp hd with rfl | hd
      · simpa using hc
      · exact hcur d hd

/-- Every word of a text is solid. -/
theorem solid_of_mem_words {s w : String} (hw : w ∈ words s) : Solid w.toList := by
  obtain ⟨cs, hcs, rfl⟩ := List.mem_map.mp hw
  rw [String.toList_ofList]
  exact solid_of_mem_wordsFrom [] s.toList (by simp) cs hcs

/-- Solid words joined by single spaces are read back as those words. -/
theorem words_intercalate : ∀ (ws : List String), (∀ w ∈ ws, Solid w.toList) →
    words (" ".intercalate ws) = ws
  | [], _ => by decide
  | [w], h => by simpa using words_solid (h w List.mem_cons_self)
  | w :: u :: rest, h => by
    rw [String.intercalate_cons_cons, words_append_space,
      words_solid (h w List.mem_cons_self),
      words_intercalate (u :: rest) fun v hv => h v (List.mem_cons_of_mem w hv)]
    rfl

/-- Characters with no blank at either end. -/
def Unpadded (cs : List Char) : Prop :=
  (∀ c ∈ cs.head?, isBlank c = false) ∧ ∀ c ∈ cs.getLast?, isBlank c = false

/-- Trimming leaves characters with no blank at either end as they are. -/
theorem trimChars_unpadded {cs : List Char} (h : Unpadded cs) : trimChars cs = cs := by
  unfold trimChars
  cases cs with
  | nil => rfl
  | cons c rest =>
    have hhead : isBlank c = false := h.1 c rfl
    rw [List.dropWhile_cons_of_neg (by simp [hhead])]
    cases hlast : (c :: rest).reverse with
    | nil => simp at hlast
    | cons d init =>
      have hd : isBlank d = false := by
        apply h.2 d
        rw [← List.head?_reverse, hlast]
        rfl
      rw [List.dropWhile_cons_of_neg (by simp [hd]), ← hlast, List.reverse_reverse]

/-- Text with no blank at its start and no blank at its end, joined, has neither. -/
theorem Unpadded.append {xs ys : List Char} (hxs : xs ≠ []) (hys : ys ≠ [])
    (hx : ∀ c ∈ xs.head?, isBlank c = false) (hy : ∀ c ∈ ys.getLast?, isBlank c = false) :
    Unpadded (xs ++ ys) := by
  refine ⟨?_, ?_⟩
  · rwa [List.head?_append_of_ne_nil xs hxs]
  · rwa [List.getLast?_append_of_ne_nil xs hys]

/-- Words joined by single spaces, the first with some characters, have some characters. -/
theorem intercalate_toList_ne_nil {u : String} (hu : u.toList ≠ []) (rest : List String) :
    (" ".intercalate (u :: rest)).toList ≠ [] := by
  cases rest with
  | nil => simpa using hu
  | cons v rest =>
    rw [String.intercalate_cons_cons, String.toList_append, String.toList_append]
    simp [hu]

/-- Solid words joined by single spaces have no blank at either end. -/
theorem unpadded_intercalate : ∀ (ws : List String), ws ≠ [] → (∀ w ∈ ws, Solid w.toList) →
    Unpadded (" ".intercalate ws).toList
  | [], hne, _ => absurd rfl hne
  | [w], _, h => by
    obtain ⟨_, hsolid⟩ := h w List.mem_cons_self
    have hends : Unpadded w.toList :=
      ⟨fun c hc => hsolid c (List.mem_of_mem_head? hc),
        fun c hc => hsolid c (List.mem_of_mem_getLast? hc)⟩
    simpa using hends
  | w :: u :: rest, _, h => by
    obtain ⟨hne, hsolid⟩ := h w List.mem_cons_self
    have htail := unpadded_intercalate (u :: rest) (by simp)
      fun v hv => h v (List.mem_cons_of_mem w hv)
    have hmore := intercalate_toList_ne_nil (h u (by simp)).1 rest
    rw [String.intercalate_cons_cons, String.toList_append, String.toList_append,
      List.append_assoc]
    refine Unpadded.append hne (by simp) (fun c hc => hsolid c (List.mem_of_mem_head? hc)) ?_
    rw [show " ".toList = [' '] from rfl, List.getLast?_append_of_ne_nil [' '] hmore]
    exact htail.2

/-- A solid word has no blank at either end. -/
theorem Solid.unpadded {w : List Char} (h : Solid w) : Unpadded w :=
  ⟨fun c hc => h.2 c (List.mem_of_mem_head? hc), fun c hc => h.2 c (List.mem_of_mem_getLast? hc)⟩

/-- Trimming text with no blank at either end leaves it. -/
theorem trim_unpadded {w : String} (h : Unpadded w.toList) : trim w = w := by
  rw [trim, trimChars_unpadded h, String.ofList_toList]

/-- A word in lower case is a word. -/
theorem Solid.lower {w : String} (h : Solid w.toList) : Solid (lower w).toList := by
  rw [Text.lower, String.toList_ofList]
  exact ⟨lowerFrom_ne_nil h.1, fun _ hc => not_blank_of_mem_lowerFrom h.2 hc⟩

/-- Characters are their leading blanks, themselves trimmed, and their trailing blanks. -/
theorem exists_pads (cs : List Char) :
    ∃ lead trail, cs = lead ++ trimChars cs ++ trail ∧ (∀ c ∈ lead, isBlank c = true) ∧
      ∀ c ∈ trail, isBlank c = true := by
  refine ⟨cs.takeWhile isBlank, ((cs.dropWhile isBlank).reverse.takeWhile isBlank).reverse, ?_,
    fun c hc => List.mem_takeWhile_imp hc,
    fun c hc => List.mem_takeWhile_imp (List.mem_reverse.mp hc)⟩
  -- the trailing blanks are the leading ones of the reversed rest
  have hrest : cs.dropWhile isBlank = trimChars cs ++
      ((cs.dropWhile isBlank).reverse.takeWhile isBlank).reverse := by
    have hsplit := congrArg List.reverse
      (List.takeWhile_append_dropWhile (p := isBlank) (l := (cs.dropWhile isBlank).reverse))
    rw [List.reverse_append, List.reverse_reverse] at hsplit
    rw [trimChars]
    exact hsplit.symm
  rw [List.append_assoc, ← hrest, List.takeWhile_append_dropWhile]

/-- Trimming drops the blanks around characters with no blank at either end. -/
theorem trimChars_pads {lead core trail : List Char} (hlead : ∀ c ∈ lead, isBlank c = true)
    (htrail : ∀ c ∈ trail, isBlank c = true) (hcore : Unpadded core) (hne : core ≠ []) :
    trimChars (lead ++ core ++ trail) = core := by
  have hfront : (lead ++ core ++ trail).dropWhile isBlank = core ++ trail := by
    rw [List.append_assoc, List.dropWhile_append, if_pos (by simpa [List.dropWhile_eq_nil_iff])]
    obtain ⟨c, rest, rfl⟩ := List.exists_cons_of_ne_nil hne
    rw [List.cons_append, List.dropWhile_cons_of_neg (by simp [hcore.1 c rfl])]
  have hback : core.reverse.dropWhile isBlank = core.reverse := by
    obtain ⟨c, rest, hrev⟩ := List.exists_cons_of_ne_nil (List.reverse_ne_nil_iff.mpr hne)
    have hlast : isBlank c = false := hcore.2 c (by rw [← List.head?_reverse, hrev]; rfl)
    rw [hrev, List.dropWhile_cons_of_neg (by simp [hlast])]
  unfold trimChars
  rw [hfront, List.reverse_append, List.dropWhile_append,
    if_pos (by simpa [List.dropWhile_eq_nil_iff]), hback, List.reverse_reverse]

end Text

namespace Number

open Adventure.Text

/-- A digit is no blank. -/
theorem not_isBlank_of_digit {c : Char} (h : '0' ≤ c ∧ c ≤ '9') : isBlank c = false := by
  have h48 : 48 ≤ c.toNat := h.1
  have h57 : c.toNat ≤ 57 := h.2
  simp [isBlank, CodeRanges.contains, blanks]
  omega

/-- Digits read one by one as their values. -/
theorem mapM_decimalValue? : ∀ {cs : List Char}, IsDigits cs →
    cs.mapM decimalValue? = some (cs.map (·.toNat - 48))
  | [], _ => rfl
  | c :: cs, h => by
    have hc := decimalValue?_of_isDigit (h c List.mem_cons_self)
    have hcs := mapM_decimalValue? fun d hd => h d (List.mem_cons_of_mem c hd)
    simp [List.mapM_cons, hc, hcs]

/-- A number's decimal text, within the digit limit, reads back as the number. -/
theorem readDecimalNat_toString {k : Nat} (hk : (toString k).length ≤ digitLimit) :
    readDecimalNat (toString k) = some k := by
  have hdigits := isDigits_toDigits k
  have hne : Nat.toDigits 10 k ≠ [] := (isWhole_toDigits k).digits.1
  have hlen : (Nat.toDigits 10 k).length ≤ digitLimit := by simpa [toString, Nat.repr] using hk
  unfold readDecimalNat
  simp only [show (toString k).toList = Nat.toDigits 10 k from String.toList_ofList]
  rw [if_neg (by simp [hne, hlen]), mapM_decimalValue? hdigits, Option.map_some, digitsValue_map,
    Nat.ofDigitChars_toDigits (by decide) (by decide)]

/-- A number's decimal text is one solid word of digits. -/
theorem solid_toString (k : Nat) : Solid (toString k).toList := by
  have hdigits := isDigits_toDigits k
  rw [show (toString k).toList = Nat.toDigits 10 k from String.toList_ofList]
  refine ⟨(isWhole_toDigits k).digits.1, fun c hc => not_isBlank_of_digit (hdigits c hc)⟩

/-- A number is written with digits only. -/
theorem all_isDigit_toString (k : Nat) : (toString k).toList.all isDigit = true := by
  rw [List.all_eq_true]
  intro c hc
  rw [show (toString k).toList = Nat.toDigits 10 k from String.toList_ofList] at hc
  simp [isDigit, decimalValue?_of_isDigit (isDigits_toDigits k c hc)]

end Number

namespace Command

open Adventure.Text Adventure.Number

/-- The verb `talk` is split from the rest at its space. -/
theorem splitAtSpace_talk (r : List Char) :
    splitAtSpace ("talk".toList ++ ' ' :: r) = ("talk".toList, r) := by
  unfold splitAtSpace
  simp [List.splitOn_eq_splitOnP, List.splitOnP_cons_eq_if_modifyHead]

/-- A command that starts with `talk` and a space is the verb `talk` and the rest trimmed, when
the rest trimmed has some characters and no blank at either end. -/
theorem verbAndArg_talk {r : String} (hcore : Unpadded (trim r).toList) (hne : (trim r).toList ≠ []) :
    verbAndArg ("talk " ++ r) = ("talk", trim r) := by
  obtain ⟨lead, trail, hsplit, hlead, htrail⟩ := exists_pads r.toList
  have htrim : trimChars r.toList = (trim r).toList := by rw [trim, String.toList_ofList]
  rw [htrim] at hsplit
  have ht : isBlank 't' = false := by decide
  -- the command is the verb, a space and the rest up to its trailing blanks, then those blanks
  have hcmd : ("talk " ++ r).toList =
      [] ++ (("talk".toList ++ ' ' :: lead) ++ (trim r).toList) ++ trail := by
    rw [String.toList_append, hsplit]
    simp
  have hkept : Unpadded (("talk".toList ++ ' ' :: lead) ++ (trim r).toList) :=
    Unpadded.append (by simp) hne (by simp [ht]) hcore.2
  have harg : trim (String.ofList (lead ++ (trim r).toList)) = trim r := by
    rw [trim, String.toList_ofList, ← List.append_nil (lead ++ (trim r).toList),
      trimChars_pads hlead (by simp) hcore hne, String.ofList_toList]
  have hlower : lower "talk" = "talk" := by decide
  unfold verbAndArg
  rw [hcmd, trimChars_pads (by simp) htrail hkept (by simp), List.append_assoc, List.cons_append,
    splitAtSpace_talk]
  simp only [String.ofList_toList, hlower, harg]

/-- A name of words with single spaces between them, blanks perhaps around them: its words read
back, joined by single spaces, are the name trimmed. -/
structure Spaced (n : String) : Prop where
  words_ne_nil : words n ≠ []
  spaced : " ".intercalate (words n) = trim n

/-- A character's name as a player types it after `talk`: singly spaced, and not ending in a
word of digits after other words (which would be read as a line number). -/
structure TalkName (n : String) : Prop extends Spaced n where
  unnumbered : ∀ w ∈ (words n).getLast?, 1 < (words n).length → w.toList.all isDigit = false

/-- The words of a text, each in lower case, are words. -/
theorem solid_lower_words (n : String) : ∀ w ∈ (words n).map lower, Solid w.toList := by
  intro w hw
  obtain ⟨v, hv, rfl⟩ := List.mem_map.mp hw
  exact (solid_of_mem_words hv).lower

namespace Spaced

variable {n : String} (h : Spaced n)
include h

/-- A singly spaced name, trimmed, has no blank at either end. -/
theorem unpadded : Unpadded (trim n).toList := by
  rw [← h.spaced]
  exact unpadded_intercalate (words n) h.words_ne_nil fun _ hw => solid_of_mem_words hw

/-- A singly spaced name, trimmed, is not empty. -/
theorem trim_ne_nil : (trim n).toList ≠ [] := by
  obtain ⟨w, rest, hws⟩ := List.exists_cons_of_ne_nil h.words_ne_nil
  rw [← h.spaced, hws]
  exact intercalate_toList_ne_nil (solid_of_mem_words (s := n) (by simp [hws])).1 rest

/-- Trimming a singly spaced name keeps its words. -/
theorem words_trim : words (trim n) = words n := by
  rw [← h.spaced]
  exact words_intercalate (words n) fun _ hw => solid_of_mem_words hw

/-- The name trimmed, followed by a space and a number, is read as the name and the number. -/
theorem parseTalk_number {k : Nat} (hk : (toString k).length ≤ digitLimit) :
    parseTalk (trim n ++ " " ++ toString k) = .ok (trim n, some k) := by
  have hwords : words (trim n ++ " " ++ toString k) = words n ++ [toString k] := by
    rw [words_append_space, words_solid (solid_toString k), h.words_trim]
  unfold parseTalk
  simp only [hwords, List.getLast?_append, List.getLast?_singleton, Option.some_or,
    List.length_append, List.length_singleton]
  rw [if_pos, readDecimalNat_toString hk]
  · simp [h.spaced]
  · have hpos : 0 < (words n).length := List.length_pos_of_ne_nil h.words_ne_nil
    have hsome : (toString k).isEmpty = false := by
      simp [← String.toList_inj]
    simp only [Bool.and_eq_true, decide_eq_true_eq, hsome, Bool.not_false, all_isDigit_toString]
    exact ⟨⟨by omega, trivial⟩, trivial⟩

/-- The lower case of the name trimmed is its words in lower case, joined by single spaces. -/
theorem lower_trim : lower (trim n) = " ".intercalate ((words n).map lower) := by
  rw [← h.spaced, lower_intercalate]

/-- The lower case of a singly spaced name has no blank at either end. -/
theorem trim_lower : trim (lower (trim n)) = lower (trim n) := by
  rw [h.lower_trim]
  exact trim_unpadded (unpadded_intercalate _ (by simpa using h.words_ne_nil) (solid_lower_words n))

/-- The lower case of a singly spaced name, trimmed, is singly spaced. -/
theorem lower : Spaced (lower (trim n)) where
  words_ne_nil := by
    rw [h.lower_trim, words_intercalate _ (solid_lower_words n)]
    simpa using h.words_ne_nil
  spaced := by
    rw [h.trim_lower, h.lower_trim, words_intercalate _ (solid_lower_words n)]

end Spaced

/-- A talk name trimmed is read as itself, with no line number. -/
theorem TalkName.parseTalk_eq {n : String} (h : TalkName n) : parseTalk (trim n) = .ok (trim n, none) := by
  obtain ⟨w, hw⟩ := List.getLast?_isSome.mpr h.words_ne_nil |> Option.isSome_iff_exists.mp
  unfold parseTalk
  dsimp only
  rw [h.words_trim, hw]
  dsimp only
  rw [if_neg, trim_unpadded h.unpadded]
  intro hnumbered
  simp only [Bool.and_eq_true, decide_eq_true_eq] at hnumbered
  have hall := h.unnumbered w (by simp [hw]) hnumbered.1.1
  rw [hnumbered.2] at hall
  cases hall

/-- `talk` and a name is the order to talk to that name, trimmed. -/
theorem read_talk {n : String} (h : TalkName n) : read ("talk " ++ n) = .ok (.talk (trim n)) := by
  have hn : trim n ≠ "" := fun h0 => h.trim_ne_nil (by simp [h0])
  unfold read
  rw [verbAndArg_talk h.unpadded h.trim_ne_nil]
  simp [readOrder, h.parseTalk_eq, String.isEmpty_iff, hn, bind, Except.bind, pure, Except.pure]

/-- `talk`, a name trimmed and a number is the order to say that line to that name. -/
theorem read_talkOption {n : String} (h : Spaced n) {k : Nat}
    (hk : (toString k).length ≤ digitLimit) :
    read ("talk " ++ trim n ++ " " ++ toString k) = .ok (.talkOption (trim n) k) := by
  have hdigits := solid_toString k
  have hchars : (trim n ++ " " ++ toString k).toList =
      (trim n).toList ++ ([' '] ++ (toString k).toList) := by
    simp [String.toList_append]
  have hunpadded : Unpadded (trim n ++ " " ++ toString k).toList := by
    rw [hchars]
    refine Unpadded.append h.trim_ne_nil (by simp) h.unpadded.1 ?_
    rw [List.getLast?_append_of_ne_nil [' '] hdigits.1]
    exact fun c hc => hdigits.2 c (List.mem_of_mem_getLast? hc)
  have hsame := trim_unpadded hunpadded
  have hcore : Unpadded (trim (trim n ++ " " ++ toString k)).toList := by
    rw [hsame]
    exact hunpadded
  have hne : (trim (trim n ++ " " ++ toString k)).toList ≠ [] := by
    rw [hsame]
    simp
  have hparse : parseTalk (trim n ++ " " ++ k.repr) = .ok (trim n, some k) := h.parseTalk_number hk
  have hsplit : verbAndArg ("talk " ++ trim n ++ " " ++ toString k) =
      ("talk", trim n ++ " " ++ toString k) := by
    rw [show "talk " ++ trim n ++ " " ++ toString k = "talk " ++ (trim n ++ " " ++ toString k) by
      simp only [String.append_assoc], verbAndArg_talk hcore hne, hsame]
  unfold read
  rw [hsplit]
  simp [readOrder, hparse, String.isEmpty_iff, bind, Except.bind, pure, Except.pure]

end Command

end Adventure
