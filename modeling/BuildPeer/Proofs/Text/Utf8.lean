import BuildPeer.Text.Utf8

/-!
The two directions of UTF-8. Reading undoes writing, and the bytes that are read without a fault are
exactly the written ones (`decode_eq_ok_iff`), so "is UTF-8" can be said without the machine: the
bytes are what some text is written as.
-/

namespace BuildPeer.Text.Utf8

-- Writing and reading back one character.

theorem byte_toNat {n : Nat} (small : n < 256) : (UInt8.ofNat n).toNat = n := by
  simpa using Nat.mod_eq_of_lt small

theorem byte_eq {n : Nat} {b : UInt8} (same : n = b.toNat) : UInt8.ofNat n = b := by
  rw [same]
  exact UInt8.ofNat_toNat

theorem char_toNat {n : Nat} (valid : n.isValidChar) : (Char.ofNat n).toNat = n := by
  have built : Char.ofNat n = Char.ofNatAux n valid := dif_pos valid
  rw [built]
  rfl

theorem decodeFrom_first {b : UInt8} {p : Unfinished} (done : List Char) (valid : Nat)
    (rest : Bytes) (starts : start? b.toNat = some p) (owes : p.owed ≠ 0) :
    decodeFrom done valid none (b :: rest) = decodeFrom done valid (some p) rest := by
  simp [decodeFrom, starts, owes]

theorem decodeFrom_further {b : UInt8} {p q : Unfinished} (done : List Char) (valid : Nat)
    (rest : Bytes) (goesOn : next? p b.toNat = some q) (owes : q.owed ≠ 0) :
    decodeFrom done valid (some p) (b :: rest) = decodeFrom done valid (some q) rest := by
  simp [decodeFrom, goesOn, owes]

theorem decodeFrom_last {b : UInt8} {p q : Unfinished} (done : List Char) (valid : Nat)
    (rest : Bytes) (goesOn : next? p b.toNat = some q) (ends : q.owed = 0) :
    decodeFrom done valid (some p) (b :: rest) =
      decodeFrom (Char.ofNat q.bits :: done) (valid + q.seen) none rest := by
  simp [decodeFrom, goesOn, ends]

theorem decodeFrom_encodeChar (c : Char) (done : List Char) (valid : Nat) (rest : Bytes) :
    decodeFrom done valid none (encodeChar c ++ rest) =
      decodeFrom (c :: done) (valid + (encodeChar c).length) none rest := by
  have scalar : c.toNat < 0xD800 ∨ 0xDFFF < c.toNat ∧ c.toNat < 0x110000 := c.valid
  have back : Char.ofNat c.toNat = c := Char.ofNat_toNat c
  unfold encodeChar
  generalize c.toNat = n at scalar back
  by_cases one : n < 0x80
  · have first : start? (UInt8.ofNat n).toNat = some ⟨0, 0x80, 0xBF, n, 1⟩ := by
      rw [byte_toNat (by omega), start?, if_pos one]
    simp only [one, ↓reduceIte, List.cons_append, List.nil_append, List.length_cons,
      List.length_nil, decodeFrom, first, back]
  by_cases two : n < 0x800
  · have first : start? (UInt8.ofNat (0xC0 + n / 64)).toNat = some ⟨1, 0x80, 0xBF, n / 64, 1⟩ := by
      rw [byte_toNat (by omega), start?, if_neg (by omega), if_neg (by omega), if_pos (by omega)]
      simp only [Option.some.injEq, Unfinished.mk.injEq, true_and, and_true]
      omega
    have last : next? ⟨1, 0x80, 0xBF, n / 64, 1⟩ (UInt8.ofNat (0x80 + n % 64)).toNat =
        some ⟨0, 0x80, 0xBF, n, 2⟩ := by
      rw [byte_toNat (by omega), next?, if_pos (by dsimp only; omega)]
      simp only [Option.some.injEq, Unfinished.mk.injEq, Nat.reduceAdd, Nat.reduceSub, true_and,
        and_true]
      omega
    simp only [one, two, ↓reduceIte, List.cons_append, List.nil_append, List.length_cons,
      List.length_nil]
    rw [decodeFrom_first _ _ _ first (by simp), decodeFrom_last _ _ _ last rfl, back]
  by_cases three : n < 0x10000
  · have first : start? (UInt8.ofNat (0xE0 + n / 4096)).toNat =
        some ⟨2, if n / 4096 = 0 then 0xA0 else 0x80, if n / 4096 = 13 then 0x9F else 0xBF,
          n / 4096, 1⟩ := by
      rw [byte_toNat (by omega), start?, if_neg (by omega), if_neg (by omega), if_neg (by omega),
        if_pos (by omega)]
      simp only [Option.some.injEq, Unfinished.mk.injEq, true_and, and_true]
      have low : 0xE0 + n / 4096 = 0xE0 ↔ n / 4096 = 0 := by omega
      have high : 0xE0 + n / 4096 = 0xED ↔ n / 4096 = 13 := by omega
      simp only [low, high, true_and]
      omega
    have second : next? ⟨2, if n / 4096 = 0 then 0xA0 else 0x80,
        if n / 4096 = 13 then 0x9F else 0xBF, n / 4096, 1⟩
          (UInt8.ofNat (0x80 + n / 64 % 64)).toNat = some ⟨1, 0x80, 0xBF, n / 64, 2⟩ := by
      rw [byte_toNat (by omega), next?, if_pos (by dsimp only; split <;> split <;> omega)]
      simp only [Option.some.injEq, Unfinished.mk.injEq, Nat.reduceAdd, Nat.reduceSub, true_and,
        and_true]
      omega
    have last : next? ⟨1, 0x80, 0xBF, n / 64, 2⟩ (UInt8.ofNat (0x80 + n % 64)).toNat =
        some ⟨0, 0x80, 0xBF, n, 3⟩ := by
      rw [byte_toNat (by omega), next?, if_pos (by dsimp only; omega)]
      simp only [Option.some.injEq, Unfinished.mk.injEq, Nat.reduceAdd, Nat.reduceSub, true_and,
        and_true]
      omega
    simp only [one, two, three, ↓reduceIte, List.cons_append, List.nil_append, List.length_cons,
      List.length_nil]
    rw [decodeFrom_first _ _ _ first (by simp), decodeFrom_further _ _ _ second (by simp),
      decodeFrom_last _ _ _ last rfl, back]
  · have first : start? (UInt8.ofNat (0xF0 + n / 262144)).toNat =
        some ⟨3, if n / 262144 = 0 then 0x90 else 0x80, if n / 262144 = 4 then 0x8F else 0xBF,
          n / 262144, 1⟩ := by
      rw [byte_toNat (by omega), start?, if_neg (by omega), if_neg (by omega), if_neg (by omega),
        if_neg (by omega), if_pos (by omega)]
      simp only [Option.some.injEq, Unfinished.mk.injEq, true_and, and_true]
      have low : 0xF0 + n / 262144 = 0xF0 ↔ n / 262144 = 0 := by omega
      have high : 0xF0 + n / 262144 = 0xF4 ↔ n / 262144 = 4 := by omega
      simp only [low, high, true_and]
      omega
    have second : next? ⟨3, if n / 262144 = 0 then 0x90 else 0x80,
        if n / 262144 = 4 then 0x8F else 0xBF, n / 262144, 1⟩
          (UInt8.ofNat (0x80 + n / 4096 % 64)).toNat = some ⟨2, 0x80, 0xBF, n / 4096, 2⟩ := by
      rw [byte_toNat (by omega), next?, if_pos (by dsimp only; split <;> split <;> omega)]
      simp only [Option.some.injEq, Unfinished.mk.injEq, Nat.reduceAdd, Nat.reduceSub, true_and,
        and_true]
      omega
    have third : next? ⟨2, 0x80, 0xBF, n / 4096, 2⟩ (UInt8.ofNat (0x80 + n / 64 % 64)).toNat =
        some ⟨1, 0x80, 0xBF, n / 64, 3⟩ := by
      rw [byte_toNat (by omega), next?, if_pos (by dsimp only; omega)]
      simp only [Option.some.injEq, Unfinished.mk.injEq, Nat.reduceAdd, Nat.reduceSub, true_and,
        and_true]
      omega
    have last : next? ⟨1, 0x80, 0xBF, n / 64, 3⟩ (UInt8.ofNat (0x80 + n % 64)).toNat =
        some ⟨0, 0x80, 0xBF, n, 4⟩ := by
      rw [byte_toNat (by omega), next?, if_pos (by dsimp only; omega)]
      simp only [Option.some.injEq, Unfinished.mk.injEq, Nat.reduceAdd, Nat.reduceSub, true_and,
        and_true]
      omega
    simp only [one, two, three, ↓reduceIte, List.cons_append, List.nil_append, List.length_cons,
      List.length_nil]
    rw [decodeFrom_first _ _ _ first (by simp), decodeFrom_further _ _ _ second (by simp),
      decodeFrom_further _ _ _ third (by simp), decodeFrom_last _ _ _ last rfl, back]

theorem decodeFrom_encode (text done : List Char) (valid : Nat) :
    decodeFrom done valid none (encode text) = .ok (done.reverse ++ text) := by
  induction text generalizing done valid with
  | nil => simp [encode, decodeFrom]
  | cons c text ih =>
      have split : encode (c :: text) = encodeChar c ++ encode text := by simp [encode]
      rw [split, decodeFrom_encodeChar, ih]
      simp

@[simp]
theorem decode_encode (text : List Char) : decode (encode text) = .ok text := by
  simpa [decode] using decodeFrom_encode text [] 0

@[simp]
theorem encode_append (first second : List Char) :
    encode (first ++ second) = encode first ++ encode second :=
  List.flatMap_append

theorem encode_ascii {text : List Char} (ascii : ∀ c ∈ text, c.toNat < 128) :
    encode text = text.map fun c => UInt8.ofNat c.toNat := by
  induction text with
  | nil => rfl
  | cons c text ih =>
      have first : c.toNat < 128 := ascii c List.mem_cons_self
      have more := ih fun c member => ascii c (List.mem_cons_of_mem _ member)
      have one : encodeChar c = [UInt8.ofNat c.toNat] := by simp [encodeChar, first]
      rw [encode, List.flatMap_cons, one, ← encode, more]
      rfl

-- What is read without a fault was written.

theorem encodeChar_two {a b : UInt8} (lead : 0xC2 ≤ a.toNat ∧ a.toNat < 0xE0)
    (tail : 0x80 ≤ b.toNat ∧ b.toNat ≤ 0xBF) :
    encodeChar (Char.ofNat (a.toNat % 32 * 64 + b.toNat % 64)) = [a, b] := by
  have value := char_toNat (n := a.toNat % 32 * 64 + b.toNat % 64) (Or.inl (by omega))
  simp only [encodeChar, value]
  rw [if_neg (by omega), if_pos (by omega), byte_eq (b := a) (by omega), byte_eq (b := b) (by omega)]

theorem encodeChar_three {a b c : UInt8} (lead : 0xE0 ≤ a.toNat ∧ a.toNat < 0xF0)
    (second : (if a.toNat = 0xE0 then 0xA0 else 0x80) ≤ b.toNat ∧
      b.toNat ≤ (if a.toNat = 0xED then 0x9F else 0xBF))
    (tail : 0x80 ≤ c.toNat ∧ c.toNat ≤ 0xBF) :
    encodeChar (Char.ofNat ((a.toNat % 16 * 64 + b.toNat % 64) * 64 + c.toNat % 64)) =
      [a, b, c] := by
  have scalar : Nat.isValidChar ((a.toNat % 16 * 64 + b.toNat % 64) * 64 + c.toNat % 64) := by
    unfold Nat.isValidChar
    split at second <;> split at second <;> omega
  have wide : 0x80 ≤ b.toNat ∧ b.toNat ≤ 0xBF ∧ (a.toNat = 0xE0 → 0xA0 ≤ b.toNat) := by
    split at second <;> split at second <;> omega
  simp only [encodeChar, char_toNat scalar]
  rw [if_neg (by omega), if_neg (by omega), if_pos (by omega), byte_eq (b := a) (by omega),
    byte_eq (b := b) (by omega), byte_eq (b := c) (by omega)]

theorem encodeChar_four {a b c d : UInt8} (lead : 0xF0 ≤ a.toNat ∧ a.toNat < 0xF5)
    (second : (if a.toNat = 0xF0 then 0x90 else 0x80) ≤ b.toNat ∧
      b.toNat ≤ (if a.toNat = 0xF4 then 0x8F else 0xBF))
    (third : 0x80 ≤ c.toNat ∧ c.toNat ≤ 0xBF) (tail : 0x80 ≤ d.toNat ∧ d.toNat ≤ 0xBF) :
    encodeChar (Char.ofNat
        (((a.toNat % 8 * 64 + b.toNat % 64) * 64 + c.toNat % 64) * 64 + d.toNat % 64)) =
      [a, b, c, d] := by
  have wide : 0x80 ≤ b.toNat ∧ b.toNat ≤ 0xBF ∧ (a.toNat = 0xF0 → 0x90 ≤ b.toNat) ∧
      (a.toNat = 0xF4 → b.toNat ≤ 0x8F) := by
    split at second <;> split at second <;> omega
  have scalar : Nat.isValidChar
      (((a.toNat % 8 * 64 + b.toNat % 64) * 64 + c.toNat % 64) * 64 + d.toNat % 64) := by
    unfold Nat.isValidChar
    omega
  simp only [encodeChar, char_toNat scalar]
  rw [if_neg (by omega), if_neg (by omega), if_neg (by omega), byte_eq (b := a) (by omega),
    byte_eq (b := b) (by omega), byte_eq (b := c) (by omega), byte_eq (b := d) (by omega)]

theorem start_cases {n : Nat} {p : Unfinished} (starts : start? n = some p) :
    (n < 0x80 ∧ p = ⟨0, 0x80, 0xBF, n, 1⟩) ∨
      (0xC2 ≤ n ∧ n < 0xE0 ∧ p = ⟨1, 0x80, 0xBF, n % 32, 1⟩) ∨
      (0xE0 ≤ n ∧ n < 0xF0 ∧ p =
        ⟨2, if n = 0xE0 then 0xA0 else 0x80, if n = 0xED then 0x9F else 0xBF, n % 16, 1⟩) ∨
      (0xF0 ≤ n ∧ n < 0xF5 ∧ p =
        ⟨3, if n = 0xF0 then 0x90 else 0x80, if n = 0xF4 then 0x8F else 0xBF, n % 8, 1⟩) := by
  unfold start? at starts
  split at starts
  · cases starts
    exact .inl ⟨by omega, rfl⟩
  split at starts
  · cases starts
  split at starts
  · cases starts
    exact .inr (.inl ⟨by omega, by omega, rfl⟩)
  split at starts
  · cases starts
    exact .inr (.inr (.inl ⟨by omega, by omega, rfl⟩))
  split at starts
  · cases starts
    exact .inr (.inr (.inr ⟨by omega, by omega, rfl⟩))
  · cases starts

theorem decodeFrom_some_ok {p : Unfinished} {done text : List Char} {valid : Nat} {bytes : Bytes}
    (read : decodeFrom done valid (some p) bytes = .ok text) :
    ∃ b rest, bytes = b :: rest ∧ p.low ≤ b.toNat ∧ b.toNat ≤ p.high ∧
      let q : Unfinished := ⟨p.owed - 1, 0x80, 0xBF, p.bits * 64 + b.toNat % 64, p.seen + 1⟩
      if p.owed ≤ 1 then decodeFrom (Char.ofNat q.bits :: done) (valid + q.seen) none rest = .ok text
      else decodeFrom done valid (some q) rest = .ok text := by
  cases bytes with
  | nil => simp [decodeFrom] at read
  | cons b rest =>
      by_cases inside : p.low ≤ b.toNat ∧ b.toNat ≤ p.high
      · refine ⟨b, rest, rfl, inside.1, inside.2, ?_⟩
        simp only [decodeFrom, next?, inside, and_self, ↓reduceIte, Nat.sub_eq_zero_iff_le] at read
        split at read
        · rename_i ends
          simpa only [ends, ↓reduceIte] using read
        · rename_i owes
          simpa only [owes, ↓reduceIte] using read
      · simp [decodeFrom, next?, inside] at read

theorem decodeFrom_cons_ok {b : UInt8} {rest : Bytes} {done text : List Char} {valid : Nat}
    (read : decodeFrom done valid none (b :: rest) = .ok text) :
    ∃ c left valid, b :: rest = encodeChar c ++ left ∧
      decodeFrom (c :: done) valid none left = .ok text := by
  cases starts : start? b.toNat with
  | none => simp [decodeFrom, starts] at read
  | some p =>
      rcases start_cases starts with
        ⟨one, rfl⟩ | ⟨low, high, rfl⟩ | ⟨low, high, rfl⟩ | ⟨low, high, rfl⟩
      · simp only [decodeFrom, starts, ↓reduceIte] at read
        refine ⟨Char.ofNat b.toNat, rest, _, ?_, read⟩
        simp [encodeChar, char_toNat (n := b.toNat) (Or.inl (by omega)), one]
      · rw [decodeFrom_first _ _ _ starts (by simp)] at read
        obtain ⟨c, rest, rfl, lowC, highC, read⟩ := decodeFrom_some_ok read
        refine ⟨_, rest, _, ?_, read⟩
        rw [encodeChar_two ⟨low, high⟩ ⟨lowC, highC⟩]
        rfl
      · rw [decodeFrom_first _ _ _ starts (by simp)] at read
        obtain ⟨c, rest, rfl, lowC, highC, read⟩ := decodeFrom_some_ok read
        obtain ⟨d, rest, rfl, lowD, highD, read⟩ := decodeFrom_some_ok read
        refine ⟨_, rest, _, ?_, read⟩
        rw [encodeChar_three ⟨low, high⟩ ⟨lowC, highC⟩ ⟨lowD, highD⟩]
        rfl
      · rw [decodeFrom_first _ _ _ starts (by simp)] at read
        obtain ⟨c, rest, rfl, lowC, highC, read⟩ := decodeFrom_some_ok read
        obtain ⟨d, rest, rfl, lowD, highD, read⟩ := decodeFrom_some_ok read
        obtain ⟨e, rest, rfl, lowE, highE, read⟩ := decodeFrom_some_ok read
        refine ⟨_, rest, _, ?_, read⟩
        rw [encodeChar_four ⟨low, high⟩ ⟨lowC, highC⟩ ⟨lowD, highD⟩ ⟨lowE, highE⟩]
        rfl

theorem encodeChar_ne_nil (c : Char) : encodeChar c ≠ [] := by
  simp only [encodeChar]
  split
  · simp
  · split
    · simp
    · split <;> simp

theorem encode_of_decodeFrom {bytes : Bytes} {done text : List Char} {valid : Nat}
    (read : decodeFrom done valid none bytes = .ok text) :
    ∃ more, text = done.reverse ++ more ∧ encode more = bytes := by
  induction size : bytes.length using Nat.strongRecOn generalizing bytes done valid with
  | ind length ih =>
      cases bytes with
      | nil =>
          simp only [decodeFrom, Except.ok.injEq] at read
          exact ⟨[], by simp [read], rfl⟩
      | cons b rest =>
          obtain ⟨c, left, valid, split, read⟩ := decodeFrom_cons_ok read
          have written : 0 < (encodeChar c).length :=
            List.length_pos_iff.mpr (encodeChar_ne_nil c)
          have shorter : left.length < length := by
            rw [← size, split, List.length_append]
            omega
          obtain ⟨more, same, back⟩ := ih left.length shorter read rfl
          refine ⟨c :: more, by simp [same], ?_⟩
          rw [split, ← back]
          simp [encode]

theorem decode_eq_ok_iff (bytes : Bytes) (text : List Char) :
    decode bytes = .ok text ↔ encode text = bytes := by
  constructor
  · intro read
    obtain ⟨more, same, back⟩ := encode_of_decodeFrom read
    rw [same]
    exact back
  · rintro rfl
    exact decode_encode text

end BuildPeer.Text.Utf8
