/-
  ImageIntake.Proofs.Text.Base64

  Reading Base64 letters undoes writing them (`bytesOfBase64?_base64Chars`).  Each letter
  has its value (`base64Value?_base64Letter`) and none of them is the `=` that fills a last
  group, so that four letters are read as the three bytes they were made of.
-/

import ImageIntake.Text.Base64

namespace ImageIntake.Text

theorem base64Value?_base64Letter {n : Nat} (h : n < 64) :
    base64Value? (base64Letter n) = some n := by
  have h_all : ∀ n : Fin 64, base64Value? (base64Letter n.val) = some n.val := by decide +kernel
  exact h_all ⟨n, h⟩

theorem base64Letter_ne_fill {n : Nat} (h : n < 64) : base64Letter n ≠ '=' := by
  have h_all : ∀ n : Fin 64, base64Letter n.val ≠ '=' := by decide +kernel
  exact h_all ⟨n, h⟩

/-- A byte is made up of the value that stands for it. -/
theorem byte_eq {n : Nat} {b : UInt8} (h : n % 256 = b.toNat) : UInt8.ofNat n = b := by
  rw [← UInt8.toNat_inj, UInt8.toNat_ofNat', ← h]

theorem bytesOfBase64?_one {w x : Nat} (h_w : w < 64) (h_x : x < 64) :
    bytesOfBase64? [base64Letter w, base64Letter x, '=', '='] =
      some [UInt8.ofNat (w * 4 + x / 16)] := by
  rw [bytesOfBase64?]
  simp only [base64Value?_base64Letter h_w, base64Value?_base64Letter h_x, Option.bind_eq_bind,
    Option.bind_some]
  rfl

theorem bytesOfBase64?_two {w x y : Nat} (h_w : w < 64) (h_x : x < 64) (h_y : y < 64) :
    bytesOfBase64? [base64Letter w, base64Letter x, base64Letter y, '='] =
      some [UInt8.ofNat (w * 4 + x / 16), UInt8.ofNat (x % 16 * 16 + y / 4)] := by
  have h_fill := base64Letter_ne_fill h_y
  rw [bytesOfBase64?]
  simp only [base64Value?_base64Letter h_w, base64Value?_base64Letter h_x,
    base64Value?_base64Letter h_y, Option.bind_eq_bind, Option.bind_some]
  rfl

/-- A group of four letters without filling is read as three bytes. -/
theorem bytesOfBase64?_group {w x y z : Nat} (h_w : w < 64) (h_x : x < 64) (h_y : y < 64)
    (h_z : z < 64) (rest : List Char) :
    bytesOfBase64? (base64Letter w :: base64Letter x :: base64Letter y :: base64Letter z :: rest) =
      (bytesOfBase64? rest).map fun more =>
        UInt8.ofNat (w * 4 + x / 16) :: UInt8.ofNat (x % 16 * 16 + y / 4) ::
          UInt8.ofNat (y % 4 * 64 + z) :: more := by
  have h_y_fill := base64Letter_ne_fill h_y
  have h_z_fill := base64Letter_ne_fill h_z
  rw [bytesOfBase64?]
  simp only [base64Value?_base64Letter h_w, base64Value?_base64Letter h_x, Option.bind_eq_bind,
    Option.bind_some]
  split
  · contradiction
  · contradiction
  · simp only [base64Value?_base64Letter h_y, base64Value?_base64Letter h_z, Option.bind_some]
    exact Option.map_eq_bind.symm

theorem bytesOfBase64?_base64Chars (bytes : Bytes) :
    bytesOfBase64? (base64Chars bytes) = some bytes := by
  fun_induction base64Chars bytes with
  | case1 => rfl
  | case2 a =>
    have h_a := a.toNat_lt
    have h_byte : UInt8.ofNat (a.toNat / 4 * 4 + a.toNat % 4 * 16 / 16) = a := byte_eq (by omega)
    rw [bytesOfBase64?_one (by omega) (by omega), h_byte]
  | case3 a b =>
    have h_a := a.toNat_lt
    have h_b := b.toNat_lt
    have h_first : UInt8.ofNat
        (a.toNat / 4 * 4 + (a.toNat % 4 * 16 + b.toNat / 16) / 16) = a := byte_eq (by omega)
    have h_second : UInt8.ofNat
        ((a.toNat % 4 * 16 + b.toNat / 16) % 16 * 16 + b.toNat % 16 * 4 / 4) = b :=
      byte_eq (by omega)
    rw [bytesOfBase64?_two (by omega) (by omega) (by omega), h_first, h_second]
  | case4 a b c rest ih =>
    have h_a := a.toNat_lt
    have h_b := b.toNat_lt
    have h_c := c.toNat_lt
    have h_first : UInt8.ofNat
        (a.toNat / 4 * 4 + (a.toNat % 4 * 16 + b.toNat / 16) / 16) = a := byte_eq (by omega)
    have h_second : UInt8.ofNat
        ((a.toNat % 4 * 16 + b.toNat / 16) % 16 * 16 + (b.toNat % 16 * 4 + c.toNat / 64) / 4) =
          b := byte_eq (by omega)
    have h_third : UInt8.ofNat
        ((b.toNat % 16 * 4 + c.toNat / 64) % 4 * 64 + c.toNat % 64) = c := byte_eq (by omega)
    rw [bytesOfBase64?_group (by omega) (by omega) (by omega) (by omega), ih, Option.map_some,
      h_first, h_second, h_third]

end ImageIntake.Text
