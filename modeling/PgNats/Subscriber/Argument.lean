import Mathlib.Algebra.Group.Nat.Defs
import Mathlib.Logic.Function.Basic
import PgNats.Messages

/-!
# The argument of a subscriber

The model of `pack_oid_dsmh_to_i64` and `unpack_i64_to_oid_dsmh` in `src/utils.rs`. The launcher
starts a subscriber with one `i64`, which holds the database in its upper half and the shared memory
segment in its lower half. `argument_bijective` says that the two functions are inverse to each
other on all 64-bit values, also on the negative ones, which belong to the databases with an `Oid`
of `2^31` or more (`packOidDsmhToI64_neg_iff`).
-/

namespace PgNats

/-- `DsmHandle`. -/
structure DsmHandle where
  /-- The handle that Postgres gives. -/
  val : UInt32
  deriving DecidableEq, Repr

/-- `pack_oid_dsmh_to_i64`. -/
def packOidDsmhToI64 (oid : Oid) (dsmh : DsmHandle) : Int64 :=
  (oid.toUInt64 <<< 32 ||| dsmh.val.toUInt64).toInt64

/-- `unpack_i64_to_oid_dsmh`. -/
def unpackI64ToOidDsmh (value : Int64) : Oid × DsmHandle :=
  let val := value.toUInt64
  let a := (val >>> 32).toUInt32
  let b := (val &&& 0xFFFFFFFF).toUInt32
  (a, ⟨b⟩)

/-- The bits of the argument are those of the database above those of the segment. -/
theorem toNat_packOidDsmhToI64 (oid : Oid) (dsmh : DsmHandle) :
    (packOidDsmhToI64 oid dsmh).toUInt64.toNat = 2 ^ 32 * oid.toNat + dsmh.val.toNat := by
  have hoid : oid.toNat < 2 ^ 32 := UInt32.toNat_lt oid
  have hdsmh : dsmh.val.toNat < 2 ^ 32 := dsmh.val.toNat_lt
  have hshift : (oid.toUInt64 <<< 32).toNat = 2 ^ 32 * oid.toNat := by
    rw [UInt64.toNat_shiftLeft, UInt32.toNat_toUInt64, Nat.shiftLeft_eq]
    change oid.toNat * 2 ^ 32 % 2 ^ 64 = _
    rw [Nat.mod_eq_of_lt (by omega), Nat.mul_comm]
  unfold packOidDsmhToI64
  rw [UInt64.toUInt64_toInt64, UInt64.toNat_or, hshift, UInt32.toNat_toUInt64,
    Nat.two_pow_add_eq_or_of_lt hdsmh]

/-- The database is the upper half of the argument. -/
theorem toNat_unpack_fst (value : Int64) :
    (unpackI64ToOidDsmh value).1.toNat = value.toUInt64.toNat / 2 ^ 32 := by
  have hvalue : value.toUInt64.toNat < 2 ^ 64 := value.toUInt64.toNat_lt
  show ((value.toUInt64 >>> 32).toUInt32).toNat = _
  rw [UInt64.toNat_toUInt32, UInt64.toNat_shiftRight, Nat.shiftRight_eq_div_pow]
  change value.toUInt64.toNat / 2 ^ 32 % 2 ^ 32 = _
  exact Nat.mod_eq_of_lt (by omega)

/-- The segment is the lower half of the argument. -/
theorem toNat_unpack_snd (value : Int64) :
    (unpackI64ToOidDsmh value).2.val.toNat = value.toUInt64.toNat % 2 ^ 32 := by
  show ((value.toUInt64 &&& 0xFFFFFFFF).toUInt32).toNat = _
  rw [UInt64.toNat_toUInt32, UInt64.toNat_and]
  change (value.toUInt64.toNat &&& 2 ^ 32 - 1) % 2 ^ 32 = _
  rw [Nat.and_two_pow_sub_one_eq_mod, Nat.mod_mod]

/-- The halves of a packed argument are what was packed. -/
theorem unpack_pack (oid : Oid) (dsmh : DsmHandle) :
    unpackI64ToOidDsmh (packOidDsmhToI64 oid dsmh) = (oid, dsmh) := by
  have hdsmh : dsmh.val.toNat < 2 ^ 32 := dsmh.val.toNat_lt
  have hpacked := toNat_packOidDsmhToI64 oid dsmh
  have hfst : (unpackI64ToOidDsmh (packOidDsmhToI64 oid dsmh)).1 = oid := by
    apply UInt32.toNat_inj.mp
    rw [toNat_unpack_fst, hpacked]
    omega
  have hsnd : (unpackI64ToOidDsmh (packOidDsmhToI64 oid dsmh)).2.val = dsmh.val := by
    apply UInt32.toNat_inj.mp
    rw [toNat_unpack_snd, hpacked]
    omega
  exact Prod.ext hfst (congrArg DsmHandle.mk hsnd)

/-- An argument is packed of its halves. -/
theorem pack_unpack (value : Int64) :
    packOidDsmhToI64 (unpackI64ToOidDsmh value).1 (unpackI64ToOidDsmh value).2 = value := by
  have hbits : (packOidDsmhToI64 (unpackI64ToOidDsmh value).1
      (unpackI64ToOidDsmh value).2).toUInt64 = value.toUInt64 := by
    apply UInt64.toNat_inj.mp
    rw [toNat_packOidDsmhToI64, toNat_unpack_fst, toNat_unpack_snd]
    exact Nat.div_add_mod _ _
  calc packOidDsmhToI64 (unpackI64ToOidDsmh value).1 (unpackI64ToOidDsmh value).2
      = (packOidDsmhToI64 (unpackI64ToOidDsmh value).1
          (unpackI64ToOidDsmh value).2).toUInt64.toInt64 := (Int64.toInt64_toUInt64 _).symm
    _ = value.toUInt64.toInt64 := congrArg UInt64.toInt64 hbits
    _ = value := Int64.toInt64_toUInt64 value

/-- The argument is negative for the databases whose `Oid` has its top bit set. -/
theorem packOidDsmhToI64_neg_iff (oid : Oid) (dsmh : DsmHandle) :
    packOidDsmhToI64 oid dsmh < 0 ↔ 2 ^ 31 ≤ oid.toNat := by
  have hdsmh : dsmh.val.toNat < 2 ^ 32 := dsmh.val.toNat_lt
  have hpacked := toNat_packOidDsmhToI64 oid dsmh
  have htoInt : (packOidDsmhToI64 oid dsmh).toInt =
      if 2 * (packOidDsmhToI64 oid dsmh).toUInt64.toNat < 2 ^ 64
        then ((packOidDsmhToI64 oid dsmh).toUInt64.toNat : Int)
        else ((packOidDsmhToI64 oid dsmh).toUInt64.toNat : Int) - 2 ^ 64 :=
    BitVec.toInt_eq_toNat_cond _
  have hlt : (packOidDsmhToI64 oid dsmh).toUInt64.toNat < 2 ^ 64 := UInt64.toNat_lt _
  rw [Int64.lt_iff_toInt_lt, htoInt, Int64.toInt_zero, hpacked]
  rw [hpacked] at hlt
  split <;> omega

/-- The argument of a subscriber determines its database and its segment, and every `i64` is the
argument for one of each: no two pairs share an argument. -/
theorem argument_bijective :
    (∀ oid dsmh, unpackI64ToOidDsmh (packOidDsmhToI64 oid dsmh) = (oid, dsmh)) ∧
      (∀ value, packOidDsmhToI64 (unpackI64ToOidDsmh value).1 (unpackI64ToOidDsmh value).2 =
        value) ∧
      Function.Injective fun pair : Oid × DsmHandle => packOidDsmhToI64 pair.1 pair.2 := by
  have hleft : Function.LeftInverse unpackI64ToOidDsmh fun pair : Oid × DsmHandle =>
      packOidDsmhToI64 pair.1 pair.2 := fun pair => unpack_pack pair.1 pair.2
  exact ⟨unpack_pack, pack_unpack, hleft.injective⟩

end PgNats
