import OpenPanel.Factors

/-! TOTP verification against RFC 6238. The source divides the time by the period
and hands the quotient to a library that divides by the period again, so the codes
it accepts are those of other counters; near the epoch a step below zero ends the
search. -/
namespace OpenPanel.TwoFactor

def counterAt (now : DateTime) : Int := timestamp now / 30

def hotpAt (hotp : Hotp) (secret : TotpSecret) (step : Int) : Option (List Char) :=
  if 0 ≤ step then some (hotp.value secret.bytes step.toNat) else none

def rfcVerify (hotp : Hotp) (secret : TotpSecret) (code : List Char) (now : DateTime) : Except FactorError Int :=
  let counter := counterAt now
  match [counter,counter - 1,counter + 1].find? (fun step => hotpAt hotp secret step == some code) with
  | some step => .ok step
  | none => .error .codeMismatch

theorem orEqZero {a b : UInt8} : a ||| b = 0 ↔ a = 0 ∧ b = 0 := by
  rw [← UInt8.toBitVec_inj,← UInt8.toBitVec_inj,← UInt8.toBitVec_inj,UInt8.toBitVec_or]
  exact BitVec.or_eq_zero_iff

theorem diffZero {pairs : List (UInt8 × UInt8)} :
    pairs.foldl (fun diff pair => diff ||| (pair.1 ^^^ pair.2)) diff = 0 ↔ diff = 0 ∧ ∀ pair ∈ pairs, pair.1 = pair.2 := by
  induction pairs generalizing diff with
  | nil => simp
  | cons pair rest ih =>
    rw [List.foldl_cons,ih,orEqZero,UInt8.xor_eq_zero_iff,List.forall_mem_cons,and_assoc]

theorem constantTimeIff : constantTimeEq a b = true ↔ a = b := by
  unfold constantTimeEq
  split
  · rename_i lengths
    exact ⟨fun no => (by cases no),fun same => absurd (congrArg List.length same) lengths⟩
  · rename_i lengths
    rw [beq_iff_eq,diffZero]
    have lengths : a.length = b.length := by simpa using lengths
    constructor
    · intro same
      refine List.ext_getElem lengths (fun i left right => ?_)
      have inside : i < (a.zip b).length := by
        rw [List.length_zip]
        omega
      have pair := same.2 _ (List.getElem_mem inside)
      simpa using pair
    · rintro rfl
      refine ⟨rfl,fun pair mem => ?_⟩
      obtain ⟨i,inside,rfl⟩ := List.mem_iff_getElem.mp mem
      simp

theorem digitByte (left : isAsciiDigit a = true) (right : isAsciiDigit b = true)
    (same : UInt8.ofNat a.toNat = UInt8.ofNat b.toNat) : a = b := by
  simp only [isAsciiDigit,Bool.and_eq_true,decide_eq_true_eq] at left right
  have values := congrArg UInt8.toNat same
  rw [UInt8.toNat_ofNat',UInt8.toNat_ofNat',Nat.mod_eq_of_lt (by omega),Nat.mod_eq_of_lt (by omega)] at values
  exact Char.toNat_inj.mp values

theorem digitsInj (left : a.all isAsciiDigit = true) (right : b.all isAsciiDigit = true)
    (same : asciiBytes a = asciiBytes b) : a = b := by
  induction a generalizing b with
  | nil => exact (List.map_eq_nil_iff.mp same.symm).symm
  | cons first rest ih =>
    cases b with
    | nil => cases same
    | cons other others =>
      simp only [List.all_cons,Bool.and_eq_true] at left right
      have parts := List.cons.inj same
      rw [digitByte left.1 right.1 parts.1,ih left.2 right.2 parts.2]

theorem matchesIff (left : SixDigits a) (right : SixDigits b) : constantTimeEq (asciiBytes a) (asciiBytes b) = true ↔ a = b :=
  constantTimeIff.trans ⟨digitsInj left.2 right.2,congrArg asciiBytes⟩

theorem digitPlain (digit : isAsciiDigit c = true) : isWhitespace c = false ∧ c ≠ ' ' ∧ c.utf8Size = 1 := by
  simp only [isAsciiDigit,Bool.and_eq_true,decide_eq_true_eq] at digit
  refine ⟨?_,?_,?_⟩
  · simp [isWhitespace]
    omega
  · rintro rfl
    exact absurd digit (by decide)
  · exact Char.utf8Size_eq_one_iff.mpr (UInt32.le_iff_toNat_le.mpr (Nat.le_trans digit.2 (by decide)))

theorem bytesCounted {text : List Char} (single : ∀ c ∈ text, c.utf8Size = 1) (n) :
    text.foldl (fun n c => n + c.utf8Size) n = n + text.length := by
  induction text generalizing n with
  | nil => rfl
  | cons c rest ih =>
    rw [List.foldl_cons,ih (fun d mem => single d (List.mem_cons_of_mem _ mem)),single c (by simp),List.length_cons]
    omega

theorem sixNormalized (six : SixDigits code) : normalized code = code ∧ byteLength code = 6 := by
  have plain : ∀ c ∈ code, isWhitespace c = false ∧ c ≠ ' ' ∧ c.utf8Size = 1 := fun c mem =>
    digitPlain (List.all_eq_true.mp six.2 c mem)
  have front : code.dropWhile isWhitespace = code :=
    List.dropWhile_eq_self_iff.mpr (fun _ => by simp [plain _ (List.getElem_mem _)])
  have back : code.rdropWhile isWhitespace = code :=
    List.rdropWhile_eq_self_iff.mpr (fun _ => by simp [plain _ (List.getLast_mem _)])
  constructor
  · rw [normalized,trim,front,back]
    exact List.filter_eq_self.mpr (fun c mem => decide_eq_true (plain c mem).2.1)
  · rw [byteLength,bytesCounted (fun c mem => (plain c mem).2.2),six.1]

def threeWay (counter : Int) (now before after code : List Char) : Except FactorError Int :=
  if now = code then .ok counter
  else if before = code then .ok (counter - 1)
  else if after = code then .ok (counter + 1)
  else .error .codeMismatch

theorem threeWayNow : threeWay counter a b c code = .ok counter ↔ a = code := by
  unfold threeWay
  split
  · simp [‹a = code›]
  · have before : counter - 1 ≠ counter := by omega
    have after : counter + 1 ≠ counter := by omega
    split <;> try split
    all_goals simp_all

theorem threeWayBefore : threeWay counter a b c code = .ok (counter - 1) ↔ a ≠ code ∧ b = code := by
  unfold threeWay
  have now : counter ≠ counter - 1 := by omega
  have after : counter + 1 ≠ counter - 1 := by omega
  split <;> try split <;> try split
  all_goals simp_all

theorem threeWayAfter : threeWay counter a b c code = .ok (counter + 1) ↔ a ≠ code ∧ b ≠ code ∧ c = code := by
  unfold threeWay
  have now : counter ≠ counter + 1 := by omega
  have before : counter - 1 ≠ counter + 1 := by omega
  split <;> try split <;> try split
  all_goals simp_all

-- Two orders of comparison agree on every code just if each value is the same, the
-- last one unless an earlier one hides it.
theorem threeWayAgree (counter) (six : ∀ x ∈ [a,b,c,a',b',c'], SixDigits x) :
    (∀ code, SixDigits code → threeWay counter a b c code = threeWay counter a' b' c' code) ↔
      a = a' ∧ b = b' ∧ (c = c' ∨ c ∈ [a,b] ∧ c' ∈ [a,b]) := by
  constructor
  · intro same
    have first : a' = a := threeWayNow.mp ((same a (six a (by simp))).symm.trans (threeWayNow.mpr rfl))
    subst first
    have second : b = b' := by
      by_cases hidden : a' = b
      · by_contra different
        have shown := (same b' (six b' (by simp))).trans (threeWayBefore.mpr ⟨fun eq => different (hidden ▸ eq),rfl⟩)
        exact different (threeWayBefore.mp shown).2
      · exact (threeWayBefore.mp ((same b (six b (by simp))).symm.trans (threeWayBefore.mpr ⟨hidden,rfl⟩))).2.symm
    subst second
    refine ⟨rfl,rfl,?_⟩
    by_cases hidden : c ∈ [a',b]
    · by_cases hidden' : c' ∈ [a',b]
      · exact .inr ⟨hidden,hidden'⟩
      · simp only [List.mem_cons,List.not_mem_nil,or_false,not_or] at hidden'
        have shown := (same c' (six c' (by simp))).trans
          (threeWayAfter.mpr ⟨Ne.symm hidden'.1,Ne.symm hidden'.2,rfl⟩)
        exact .inl (threeWayAfter.mp shown).2.2
    · simp only [List.mem_cons,List.not_mem_nil,or_false,not_or] at hidden
      have shown := (same c (six c (by simp))).symm.trans (threeWayAfter.mpr ⟨Ne.symm hidden.1,Ne.symm hidden.2,rfl⟩)
      exact .inl (threeWayAfter.mp shown).2.2.symm
  · rintro ⟨rfl,rfl,rfl | ⟨inside,inside'⟩⟩ code _
    · rfl
    · simp only [threeWay]
      by_cases now : a = code
      · simp [now]
      · by_cases before : b = code
        · simp [now,before]
        · have misses : ∀ x ∈ [a,b], x ≠ code := by simp [now,before]
          simp [now,before,misses c inside,misses c' inside']

section Verification
variable {hotp : Hotp} {secret : TotpSecret} {now : DateTime} {code : List Char}

theorem verifySix (six : SixDigits code) : secret.verify hotp code now = secret.tryOffsets hotp code (currentStep now) [0,-1,1] := by
  obtain ⟨same,bytes⟩ := sixNormalized six
  simp only [TotpSecret.verify,same,bytes,six.2]
  simp

theorem tryOffset (six : SixDigits code) : secret.tryOffsets hotp code current (offset::rest) =
      if current + offset < 0 then .error .invalidSecret
      else if hotp.value secret.bytes ((current + offset).toNat / 30) = code then .ok (current + offset)
      else secret.tryOffsets hotp code current rest := by
  rw [TotpSecret.tryOffsets]
  simp only [matchesIff (hotp.sixDigits _ _) six,Hotp.generate]

theorem verifyThreeWay (six : SixDigits code) (late : 30 ≤ timestamp now) :
    secret.verify hotp code now = threeWay (counterAt now) (hotp.value secret.bytes ((counterAt now).toNat / 30))
      (hotp.value secret.bytes (((counterAt now).toNat - 1) / 30))
      (hotp.value secret.bytes (((counterAt now).toNat + 1) / 30)) code := by
  have step : currentStep now = counterAt now := Int.tdiv_eq_ediv_of_nonneg (by omega)
  have positive : 1 ≤ counterAt now := by
    unfold counterAt
    omega
  have before : (counterAt now + -1).toNat = (counterAt now).toNat - 1 := by omega
  have after : (counterAt now + 1).toNat = (counterAt now).toNat + 1 := by omega
  have here : ¬counterAt now < 0 := by omega
  have earlier : ¬counterAt now + -1 < 0 := by omega
  have later : ¬counterAt now + 1 < 0 := by omega
  rw [verifySix six,step,tryOffset six,tryOffset six,tryOffset six,TotpSecret.tryOffsets,Int.add_zero,before,after,
    if_neg here,if_neg earlier,if_neg later,← Int.sub_eq_add_neg]
  rfl

theorem rfcThreeWay (late : 30 ≤ timestamp now) :
    rfcVerify hotp secret code now = threeWay (counterAt now) (hotp.value secret.bytes (counterAt now).toNat)
      (hotp.value secret.bytes ((counterAt now).toNat - 1)) (hotp.value secret.bytes ((counterAt now).toNat + 1)) code := by
  have positive : 1 ≤ counterAt now := by
    unfold counterAt
    omega
  have at' : hotpAt hotp secret (counterAt now) = some (hotp.value secret.bytes (counterAt now).toNat) := if_pos (by omega)
  have before : hotpAt hotp secret (counterAt now - 1) = some (hotp.value secret.bytes ((counterAt now).toNat - 1)) := by
    rw [hotpAt,if_pos (by omega)]
    congr 2
    omega
  have after : hotpAt hotp secret (counterAt now + 1) = some (hotp.value secret.bytes ((counterAt now).toNat + 1)) := by
    rw [hotpAt,if_pos (by omega)]
    congr 2
    omega
  simp only [rfcVerify,List.find?_cons,List.find?_nil,at',before,after,threeWay,Option.some_beq_some]
  by_cases first : hotp.value secret.bytes (counterAt now).toNat = code
  · simp [first]
  rw [beq_eq_false_iff_ne.mpr first,if_neg first]
  by_cases second : hotp.value secret.bytes ((counterAt now).toNat - 1) = code
  · simp [second]
  rw [beq_eq_false_iff_ne.mpr second,if_neg second]
  by_cases third : hotp.value secret.bytes ((counterAt now).toNat + 1) = code
  · simp [third]
  rw [beq_eq_false_iff_ne.mpr third,if_neg third]

def fixedCode (last : Char) : List Char := ['0','0','0','0','0',last]

-- Before the first half minute a step below zero is an error, whatever the code.
theorem earlyRefused (hotp) (secret : TotpSecret) (early : timestamp now < 30) : ∃ code, SixDigits code ∧
    secret.verify hotp code now = .error .invalidSecret := by
  have step : currentStep now ≤ 0 := by
    unfold currentStep
    rcases Int.le_total 0 (timestamp now) with after | before
    · rw [Int.tdiv_eq_ediv_of_nonneg after]
      omega
    · have positive := Int.tdiv_nonneg (a := -timestamp now) (b := 30) (by omega) (by decide)
      rw [Int.neg_tdiv] at positive
      omega
  have other : ∃ code, SixDigits code ∧ hotp.value secret.bytes 0 ≠ code := by
    by_cases zero : hotp.value secret.bytes 0 = fixedCode '0'
    · exact ⟨fixedCode '1',by decide,by rw [zero]; decide⟩
    · exact ⟨fixedCode '0',by decide,zero⟩
  obtain ⟨code,six,differs⟩ := other
  refine ⟨code,six,?_⟩
  rw [verifySix six,tryOffset six,Int.add_zero]
  by_cases below : currentStep now < 0
  · rw [if_pos below]
  · have zero : currentStep now = 0 := by omega
    rw [if_neg below,tryOffset six,zero]
    simp [differs]

theorem rfcNeverInvalid : rfcVerify hotp secret code now ≠ .error .invalidSecret := by
  unfold rfcVerify
  dsimp only
  split <;> simp

def Coincides (value : Nat → List Char) (counter : Nat) : Prop :=
  value (counter / 30) = value counter ∧ value ((counter - 1) / 30) = value (counter - 1) ∧
    (value ((counter + 1) / 30) = value (counter + 1) ∨
      value ((counter + 1) / 30) ∈ [value counter,value (counter - 1)] ∧
        value (counter + 1) ∈ [value counter,value (counter - 1)])

theorem verifyIsRfc (hotp : Hotp) (secret : TotpSecret) (now : DateTime) :
    (∀ code, SixDigits code → secret.verify hotp code now = rfcVerify hotp secret code now) ↔
      30 ≤ timestamp now ∧ Coincides (hotp.value secret.bytes) (counterAt now).toNat := by
  by_cases late : 30 ≤ timestamp now
  · have values : ∀ x ∈ [hotp.value secret.bytes ((counterAt now).toNat / 30),
        hotp.value secret.bytes (((counterAt now).toNat - 1) / 30),
        hotp.value secret.bytes (((counterAt now).toNat + 1) / 30),hotp.value secret.bytes (counterAt now).toNat,
        hotp.value secret.bytes ((counterAt now).toNat - 1),hotp.value secret.bytes ((counterAt now).toNat + 1)],
        SixDigits x := by simp [hotp.sixDigits]
    have compared := threeWayAgree (counterAt now) values
    have both : (∀ code, SixDigits code → secret.verify hotp code now = rfcVerify hotp secret code now) ↔ _ :=
      (forall₂_congr (fun code six => by rw [verifyThreeWay six late,rfcThreeWay late])).trans compared
    rw [both,Coincides]
    simp only [late,true_and]
    refine and_congr_right (fun now => and_congr_right (fun before => ?_))
    rw [now,before]
  · refine ⟨fun same => ?_,fun condition => absurd condition.1 late⟩
    obtain ⟨code,six,refused⟩ := earlyRefused hotp secret (Int.not_le.mp late)
    exact absurd ((same code six).symm.trans refused) rfcNeverInvalid

def counterDigits : Hotp where
  value _ counter := [100000,10000,1000,100,10,1].map (fun unit => Nat.digitChar (counter / unit % 10))
  sixDigits _ counter := by
    have digits : ∀ digit < 10, isAsciiDigit (Nat.digitChar digit) = true := by decide
    refine ⟨rfl,List.all_eq_true.mpr (fun c mem => ?_)⟩
    obtain ⟨unit,_,rfl⟩ := List.mem_map.mp mem
    exact digits _ (Nat.mod_lt _ (by decide))

theorem minuteCodeRefused : ∃ secret : TotpSecret, SixDigits (fixedCode '2') ∧
    rfcVerify counterDigits secret (fixedCode '2') 60000000000 = .ok 2 ∧
      secret.verify counterDigits (fixedCode '2') 60000000000 = .error .codeMismatch :=
  ⟨⟨[1],by decide⟩,by decide +kernel⟩

end Verification

end OpenPanel.TwoFactor
