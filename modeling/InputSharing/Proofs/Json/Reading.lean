import InputSharing.Proofs.Json.Scan

/-!
# Reading

A text is read as a value exactly if it denotes this value.  Scanning it gives tokens that
it spells; what the reader makes of tokens is a value of which they are the tokens, and
which does not lie too deep.
-/

namespace InputSharing.Json

/-! ## The tokens of a value -/

theorem isChain_around {mark : Token} {first second : List Token}
    (punctuation : mark.isPunctuation = true) (before : first.IsChain Token.Apart)
    (after : second.IsChain Token.Apart) : (first ++ mark :: second).IsChain Token.Apart := by
  refine List.isChain_append.2 ⟨before, List.isChain_cons.2 ⟨?_, after⟩, ?_⟩
  · exact fun _ _ => Or.inl punctuation
  · rintro _ _ _ ⟨⟩
    exact Or.inr punctuation

theorem isChain_elementTokens {elements : List Json}
    (inner : ∀ element ∈ elements, element.tokens.IsChain Token.Apart) :
    (elementTokens elements).IsChain Token.Apart := by
  induction elements with
  | nil => exact .nil
  | cons first more inductionHypothesis =>
      have head := inner first List.mem_cons_self
      have later := inductionHypothesis fun element listed =>
        inner element (List.mem_cons_of_mem first listed)
      cases more with
      | nil => exact head
      | cons second others => exact isChain_around rfl head later

theorem isChain_fieldTokens {fields : List (String × Json)}
    (inner : ∀ field ∈ fields, field.2.tokens.IsChain Token.Apart) :
    (fieldTokens fields).IsChain Token.Apart := by
  induction fields with
  | nil => exact .nil
  | cons first more inductionHypothesis =>
      have head : (Token.string first.1 :: .colon :: first.2.tokens).IsChain Token.Apart :=
        isChain_around rfl (.singleton _) (inner first List.mem_cons_self)
      have later := inductionHypothesis fun field listed =>
        inner field (List.mem_cons_of_mem first listed)
      cases more with
      | nil => exact head
      | cons second others => exact isChain_around rfl head later

/-- No two numbers or names stand side by side. -/
theorem isChain_tokens {depth : Nat} {json : Json} (nests : Nests depth json) :
    json.tokens.IsChain Token.Apart := by
  have inside {opening closing : Token} {inner : List Token}
      (opens : opening.isPunctuation = true) (closes : closing.isPunctuation = true)
      (chain : inner.IsChain Token.Apart) :
      (opening :: inner ++ [closing]).IsChain Token.Apart :=
    isChain_around closes (isChain_around opens .nil chain) .nil
  induction nests with
  | array _ inductionHypothesis => exact inside rfl rfl (isChain_elementTokens inductionHypothesis)
  | object _ inductionHypothesis => exact inside rfl rfl (isChain_fieldTokens inductionHypothesis)
  | _ => exact .singleton _

/-! ## Readers -/

/-- A reader takes a value off the front of some tokens and leaves the rest. -/
def Takes {α : Type} {tokens : List Token} (result : Taken tokens α) (value : α)
    (rest : List Token) : Prop :=
  ∃ fewer, result = some ⟨(value, rest), fewer⟩

section Lists

variable {read : (tokens : List Token) → Taken tokens Json}

theorem takes_elements {elements : List Json} (nonempty : elements ≠ [])
    (inner : ∀ element ∈ elements, ∀ rest, Takes (read (element.tokens ++ rest)) element rest)
    (rest : List Token) :
    Takes (elements? read (elementTokens elements ++ .closeArray :: rest)) elements rest := by
  induction elements with
  | nil =>
      exact absurd rfl nonempty
  | cons first more inductionHypothesis =>
      have head := inner first List.mem_cons_self
      cases more with
      | nil =>
          obtain ⟨fewer, taken⟩ := head (.closeArray :: rest)
          refine ⟨fewer_of_followed fewer, ?_⟩
          change elements? read (first.tokens ++ .closeArray :: rest) = _
          rw [elements?, taken]
          rfl
      | cons second others =>
          have tail := inductionHypothesis (List.cons_ne_nil second others) fun element listed =>
            inner element (List.mem_cons_of_mem first listed)
          obtain ⟨shorter, rested⟩ := tail
          obtain ⟨fewer, taken⟩ :=
            head (.comma :: (elementTokens (second :: others) ++ .closeArray :: rest))
          rw [elementTokens_cons_cons, List.append_assoc, List.cons_append]
          refine ⟨Nat.lt_trans shorter (fewer_of_followed fewer), ?_⟩
          rw [elements?, taken]
          simp only [rested]

theorem takes_fields {fields : List (String × Json)} (nonempty : fields ≠ [])
    (inner : ∀ field ∈ fields, ∀ rest, Takes (read (field.2.tokens ++ rest)) field.2 rest)
    (rest : List Token) :
    Takes (fields? read (fieldTokens fields ++ .closeObject :: rest)) fields rest := by
  induction fields with
  | nil =>
      exact absurd rfl nonempty
  | cons first more inductionHypothesis =>
      have head := inner first List.mem_cons_self
      cases more with
      | nil =>
          obtain ⟨fewer, taken⟩ := head (.closeObject :: rest)
          refine ⟨fewer_after_two (fewer_of_followed fewer), ?_⟩
          change fields? read (.string first.1 :: .colon :: (first.2.tokens ++ _)) = _
          rw [fields?, taken]
          rfl
      | cons second others =>
          have tail := inductionHypothesis (List.cons_ne_nil second others) fun field listed =>
            inner field (List.mem_cons_of_mem first listed)
          obtain ⟨shorter, rested⟩ := tail
          obtain ⟨fewer, taken⟩ :=
            head (.comma :: (fieldTokens (second :: others) ++ .closeObject :: rest))
          rw [fieldTokens_cons_cons, List.append_assoc, List.cons_append, List.cons_append,
            List.cons_append]
          refine ⟨Nat.lt_trans shorter (fewer_after_two (fewer_of_followed fewer)), ?_⟩
          rw [fields?, taken]
          simp only [rested]

/-- The elements that are taken off the front of some tokens are the ones that their tokens
spell, if that is so for each of them. -/
theorem of_takes_elements {good : Json → Prop}
    (inner : ∀ {tokens element rest}, Takes (read tokens) element rest →
      good element ∧ tokens = element.tokens ++ rest)
    {tokens rest : List Token} {elements : List Json}
    (taken : Takes (elements? read tokens) elements rest) :
    elements ≠ [] ∧ (∀ element ∈ elements, good element) ∧
      tokens = elementTokens elements ++ .closeArray :: rest := by
  obtain ⟨fewer, taken⟩ := taken
  fun_induction elements? read tokens generalizing elements with
  | case1 tokens element after shorter found =>
      cases taken
      obtain ⟨fine, rfl⟩ := inner ⟨_, found⟩
      refine ⟨List.cons_ne_nil element [], ?_, rfl⟩
      rintro tested (_ | ⟨_, ⟨⟩⟩)
      exact fine
  | case2 tokens element after shorter found here more last later others inductionHypothesis =>
      cases taken
      obtain ⟨fine, rfl⟩ := inner ⟨_, found⟩
      obtain ⟨nonempty, all, rfl⟩ := inductionHypothesis later (by assumption)
      obtain ⟨second, more, rfl⟩ := List.exists_cons_of_ne_nil nonempty
      refine ⟨List.cons_ne_nil element (second :: more), ?_, ?_⟩
      · exact List.forall_mem_cons.2 ⟨fine, all⟩
      · rw [elementTokens_cons_cons, List.append_assoc, List.cons_append]
  | case3 => cases taken
  | case4 => cases taken

theorem of_takes_fields {good : Json → Prop}
    (inner : ∀ {tokens value rest}, Takes (read tokens) value rest →
      good value ∧ tokens = value.tokens ++ rest)
    {tokens rest : List Token} {fields : List (String × Json)}
    (taken : Takes (fields? read tokens) fields rest) :
    fields ≠ [] ∧ (∀ field ∈ fields, good field.2) ∧
      tokens = fieldTokens fields ++ .closeObject :: rest := by
  obtain ⟨fewer, taken⟩ := taken
  fun_induction fields? read tokens generalizing fields with
  | case1 name start value after shorter found =>
      cases taken
      obtain ⟨fine, rfl⟩ := inner ⟨_, found⟩
      refine ⟨List.cons_ne_nil (name, value) [], ?_, rfl⟩
      rintro tested (_ | ⟨_, ⟨⟩⟩)
      exact fine
  | case2 name start value after shorter found here more last later others inductionHypothesis =>
      cases taken
      obtain ⟨fine, rfl⟩ := inner ⟨_, found⟩
      obtain ⟨nonempty, all, rfl⟩ := inductionHypothesis later (by assumption)
      obtain ⟨second, more, rfl⟩ := List.exists_cons_of_ne_nil nonempty
      refine ⟨List.cons_ne_nil (name, value) (second :: more), ?_, ?_⟩
      · exact List.forall_mem_cons.2 ⟨fine, all⟩
      · rw [fieldTokens_cons_cons]
        simp
  | _ => cases taken

end Lists

/-! ## Values -/

theorem tokens_ne_close (json : Json) (rest more : List Token) :
    json.tokens ++ rest ≠ .closeArray :: more := by
  cases json <;> simp [tokens]

theorem takes_array {depth : Nat} {tokens : List Token} {elements : List Json}
    {rest : List Token} (inhabited : ∀ more, tokens ≠ .closeArray :: more)
    (inner : Takes (elements? (value? depth) tokens) elements rest) :
    Takes (value? (depth + 1) (.openArray :: tokens)) (.array elements) rest := by
  obtain ⟨fewer, taken⟩ := inner
  refine ⟨fewer_after fewer, ?_⟩
  rw [value?, taken]
  exact inhabited

theorem takes_object {depth : Nat} {tokens : List Token} {fields : List (String × Json)}
    {rest : List Token} (inhabited : ∀ more, tokens ≠ .closeObject :: more)
    (inner : Takes (fields? (value? depth) tokens) fields rest) :
    Takes (value? (depth + 1) (.openObject :: tokens)) (.object fields) rest := by
  obtain ⟨fewer, taken⟩ := inner
  refine ⟨fewer_after fewer, ?_⟩
  rw [value?, taken]
  exact inhabited

theorem takes_value {depth : Nat} {json : Json} (nests : Nests depth json)
    (rest : List Token) : Takes (value? depth (json.tokens ++ rest)) json rest := by
  induction nests generalizing rest with
  | null depth => exact ⟨_, by cases depth <;> rfl⟩
  | bool depth value => exact ⟨_, by cases depth <;> rfl⟩
  | int depth value => exact ⟨_, by cases depth <;> rfl⟩
  | real depth => exact ⟨_, by cases depth <;> rfl⟩
  | string depth text => exact ⟨_, by cases depth <;> rfl⟩
  | @array depth elements inner inductionHypothesis =>
      have written :
          (array elements).tokens ++ rest =
            .openArray :: (elementTokens elements ++ .closeArray :: rest) := by
        simp [tokens]
      rw [written]
      cases elements with
      | nil => exact ⟨_, rfl⟩
      | cons first more =>
          apply takes_array
          · intro others
            cases more with
            | nil => exact tokens_ne_close first _ others
            | cons second later =>
                rw [elementTokens_cons_cons, List.append_assoc]
                exact tokens_ne_close first _ others
          · exact takes_elements (List.cons_ne_nil first more) inductionHypothesis rest
  | @object depth fields inner inductionHypothesis =>
      have written :
          (object fields).tokens ++ rest =
            .openObject :: (fieldTokens fields ++ .closeObject :: rest) := by
        simp [tokens]
      rw [written]
      cases fields with
      | nil => exact ⟨_, rfl⟩
      | cons first more =>
          apply takes_object
          · intro others equal
            cases more <;> cases equal
          · exact takes_fields (List.cons_ne_nil first more) inductionHypothesis rest

/-- A value that is taken off the front of some tokens is the one that its tokens spell. -/
theorem of_takes_value {depth : Nat} {tokens rest : List Token} {json : Json}
    (taken : Takes (value? depth tokens) json rest) :
    Nests depth json ∧ tokens = json.tokens ++ rest := by
  induction depth using Nat.strongRecOn generalizing tokens json rest with
  | ind depth inductionHypothesis =>
    obtain ⟨fewer, taken⟩ := taken
    fun_cases value? depth tokens with
    | case1 =>
        rw [value?] at taken
        cases taken
        exact ⟨.null depth, rfl⟩
    | case2 _ value =>
        rw [value?] at taken
        cases taken
        exact ⟨.bool depth value, rfl⟩
    | case3 _ value =>
        rw [value?] at taken
        cases taken
        exact ⟨.int depth value, rfl⟩
    | case4 =>
        rw [value?] at taken
        cases taken
        exact ⟨.real depth, rfl⟩
    | case5 _ text =>
        rw [value?] at taken
        cases taken
        exact ⟨.string depth text, rfl⟩
    | case6 depth =>
        rw [value?] at taken
        cases taken
        exact ⟨.array (List.forall_mem_nil _), rfl⟩
    | case7 depth start inhabited elements last shorter found =>
        rw [value?, found] at taken
        · cases taken
          obtain ⟨_, all, rfl⟩ :=
            of_takes_elements (inductionHypothesis depth depth.lt_succ_self) ⟨_, found⟩
          exact ⟨.array all, by simp [tokens]⟩
        · exact inhabited
    | case8 depth start inhabited absent =>
        rw [value?, absent] at taken
        · cases taken
        · exact inhabited
    | case9 depth =>
        rw [value?] at taken
        cases taken
        exact ⟨.object (List.forall_mem_nil _), rfl⟩
    | case10 depth start inhabited fields last shorter found =>
        rw [value?, found] at taken
        · cases taken
          obtain ⟨_, all, rfl⟩ :=
            of_takes_fields (inductionHypothesis depth depth.lt_succ_self) ⟨_, found⟩
          exact ⟨.object all, by simp [tokens]⟩
        · exact inhabited
    | case11 depth start inhabited absent =>
        rw [value?, absent] at taken
        · cases taken
        · exact inhabited
    | case12 =>
        rw [value?] at taken
        · cases taken
        all_goals assumption

theorem ofTokens?_eq_some_iff {tokens : List Token} {json : Json} :
    ofTokens? tokens = some json ↔ Nests depthLimit json ∧ tokens = json.tokens := by
  constructor
  · intro read
    rw [ofTokens?] at read
    split at read
    · next fewer taken =>
      cases read
      obtain ⟨nests, rfl⟩ := of_takes_value ⟨fewer, taken⟩
      exact ⟨nests, List.append_nil _⟩
    · cases read
  · rintro ⟨nests, rfl⟩
    have whole := takes_value nests []
    rw [List.append_nil] at whole
    obtain ⟨fewer, taken⟩ := whole
    rw [ofTokens?, taken]

/-- A text is read as a value exactly if it denotes this value. -/
theorem read?_eq_some_iff {text : String} {json : Json} :
    read? text = some json ↔ json.DenotedBy text := by
  simp only [read?, Option.bind_eq_some_iff, ofTokens?_eq_some_iff]
  constructor
  · rintro ⟨_, scanned, nests, rfl⟩
    exact ⟨nests, (Token.scan_eq_some_iff (isChain_tokens nests)).1 scanned⟩
  · rintro ⟨nests, spells⟩
    exact ⟨json.tokens, (Token.scan_eq_some_iff (isChain_tokens nests)).2 spells, nests, rfl⟩

end InputSharing.Json
