import DogetherContracts.CosmWasm.Host
import DogetherContracts.Lib.Levy

/-! # taxation.rs

The tax of the chain is due on top of a transfer; `deductTax` finds the amount
that can be sent when tax and transfer share one sum. The file is the same in
dogether and in the staking contract. -/
namespace DogetherContracts
open Checked

def computeTax (querier : Querier) (coin : Coin) : Except Fault Uint128 := do
  let taxRate ← orReject querier.taxRate .query
  let taxCap ← orReject (querier.taxCap coin.denom) .query
  let scaledRate ← taxRate.mulUint Uint128.decimalFraction
  let divisor ← scaledRate.add .panic Uint128.decimalFraction
  let net ← coin.amount.mulDiv .panic Uint128.decimalFraction divisor
  let tax ← coin.amount.sub overflow net
  pure (tax.min taxCap)

def deductTax (querier : Querier) (coin : Coin) : Except Fault Coin := do
  let taxAmount ← computeTax querier coin
  let amount ← coin.amount.sub overflow taxAmount
  pure ⟨coin.denom, amount⟩

/-- The tax contained in the gross amount `a`, at raw rate `r` and cap `c`. -/
def containedTax (r c a : ℕ) : ℕ := min (a - a * 10 ^ 18 / (r + 10 ^ 18)) c

theorem containedTax_eq (r c a : ℕ) : containedTax r c a = Levy.contained (10 ^ 18) r c a := rfl

theorem computeTax_ok {querier : Querier} {coin : Coin} {tax : Uint128} :
    computeTax querier coin = .ok tax ↔ ∃ rate cap, querier.taxRate = some rate ∧
      querier.taxCap coin.denom = some cap ∧ rate.val + 10 ^ 18 < 2 ^ 128 ∧
      tax.val = containedTax rate.val cap.val coin.amount.val := by
  simp only [computeTax, bind_ok, orReject_ok, pure_ok, Decimal.mulUint_ok, Word.add_ok,
    Word.mulDiv_ok, Word.sub_ok, Uint128.val_decimalFraction]
  constructor
  · rintro ⟨rate, hrate, cap, hcap, scaled, hscaled, divisor, hdivisor, net, ⟨_, hnet⟩, owed,
      howed, rfl⟩
    have raw : scaled.val = rate.val := by omega
    have fits := divisor.lt
    refine ⟨rate, cap, hrate, hcap, by omega, ?_⟩
    rw [Word.val_min, containedTax, ← raw, ← hdivisor, ← hnet, ← howed, Nat.add_sub_cancel]
  · rintro ⟨rate, cap, hrate, hcap, fits, value⟩
    have le := Levy.scaled_le (10 ^ 18) rate.val coin.amount.val
    have lt := coin.amount.lt
    refine ⟨rate, hrate, cap, hcap, rate.toWord, by omega, ⟨_, fits⟩, rfl,
      ⟨coin.amount.val * 10 ^ 18 / (rate.val + 10 ^ 18), le.trans_lt lt⟩,
      ⟨Nat.succ_ne_zero _, rfl⟩, ⟨coin.amount.val - coin.amount.val * 10 ^ 18 /
      (rate.val + 10 ^ 18), (Nat.sub_le _ _).trans_lt lt⟩, ?_, ?_⟩
    · exact Nat.sub_add_cancel le
    · rw [Word.ext_iff, value, Word.val_min]
      rfl

theorem deductTax_ok {querier : Querier} {coin net : Coin} :
    deductTax querier coin = .ok net ↔ ∃ rate cap, querier.taxRate = some rate ∧
      querier.taxCap coin.denom = some cap ∧ rate.val + 10 ^ 18 < 2 ^ 128 ∧
      net.denom = coin.denom ∧
      net.amount.val + containedTax rate.val cap.val coin.amount.val = coin.amount.val := by
  simp only [deductTax, bind_ok, computeTax_ok, Word.sub_ok, pure_ok]
  constructor
  · rintro ⟨tax, ⟨rate, cap, hrate, hcap, fits, value⟩, amount, difference, rfl⟩
    exact ⟨rate, cap, hrate, hcap, fits, rfl, value ▸ difference⟩
  · rintro ⟨rate, cap, hrate, hcap, fits, denom, difference⟩
    have lt := coin.amount.lt
    refine ⟨⟨containedTax rate.val cap.val coin.amount.val, by omega⟩,
      ⟨rate, cap, hrate, hcap, fits, rfl⟩, net.amount, difference, ?_⟩
    rw [← denom]

theorem deductTax_answers {querier : Querier} {coin net : Coin}
    (h : deductTax querier coin = .ok net) : ∃ rate cap, querier.taxRate = some rate ∧
      querier.taxCap coin.denom = some cap ∧ rate.val + 10 ^ 18 < 2 ^ 128 := by
  obtain ⟨rate, cap, hrate, hcap, fits, _⟩ := deductTax_ok.mp h
  exact ⟨rate, cap, hrate, hcap, fits⟩

/-- What `deductTax` leaves is the net amount of the levy. -/
theorem deductTax_net {querier : Querier} {coin net : Coin} {rate : Decimal} {cap : Uint128}
    (h : deductTax querier coin = .ok net) (hrate : querier.taxRate = some rate)
    (hcap : querier.taxCap coin.denom = some cap) :
    net.amount.val = Levy.net (10 ^ 18) rate.val cap.val coin.amount.val := by
  obtain ⟨rate', cap', hrate', hcap', _, _, sum⟩ := deductTax_ok.mp h
  obtain rfl := Option.some.inj (hrate.symm.trans hrate')
  obtain rfl := Option.some.inj (hcap.symm.trans hcap')
  rw [containedTax_eq] at sum
  have split := Levy.net_add_contained (10 ^ 18) rate.val cap.val coin.amount.val
  omega

theorem deductTax_of_fits {querier : Querier} (coin : Coin) {rate : Decimal} {cap : Uint128}
    (hrate : querier.taxRate = some rate) (hcap : querier.taxCap coin.denom = some cap)
    (fits : rate.val + 10 ^ 18 < 2 ^ 128) : ∃ net, deductTax querier coin = .ok net ∧
      net.denom = coin.denom ∧
      net.amount.val = Levy.net (10 ^ 18) rate.val cap.val coin.amount.val := by
  have split := Levy.net_add_contained (10 ^ 18) rate.val cap.val coin.amount.val
  have within := coin.amount.lt
  let net : Uint128 := ⟨Levy.net (10 ^ 18) rate.val cap.val coin.amount.val, by omega⟩
  exact ⟨⟨coin.denom, net⟩, deductTax_ok.mpr ⟨rate, cap, hrate, hcap, fits, rfl, split⟩, rfl, rfl⟩

/-- The net coin and the tax the chain puts on top of it can be paid from the
gross coin, two units more cannot, and a cap that binds leaves nothing unused. -/
theorem deductTax_sound_tight (querier : Querier) (coin : Coin) {rate : Decimal} {cap : Uint128}
    (hrate : querier.taxRate = some rate) (hcap : querier.taxCap coin.denom = some cap)
    (fits : rate.val + 10 ^ 18 < 2 ^ 128) :
    ∃ net, deductTax querier coin = .ok net ∧ net.denom = coin.denom ∧
      net.amount.val + Levy.onTop (10 ^ 18) rate.val cap.val net.amount.val ≤ coin.amount.val ∧
      coin.amount.val <
        net.amount.val + 2 + Levy.onTop (10 ^ 18) rate.val cap.val (net.amount.val + 2) ∧
      (coin.amount.val - net.amount.val = cap.val →
        coin.amount.val - net.amount.val < Levy.uncapped (10 ^ 18) rate.val coin.amount.val →
        net.amount.val + Levy.onTop (10 ^ 18) rate.val cap.val net.amount.val =
          coin.amount.val) := by
  have scale : 0 < 10 ^ 18 := by norm_num
  obtain ⟨net, done, denom, value⟩ := deductTax_of_fits coin hrate hcap fits
  have sum := Levy.net_add_onTop scale rate.val cap.val coin.amount.val
  have two := Levy.tight scale rate.val cap.val coin.amount.val
  rw [← value] at sum two
  refine ⟨net, done, denom, by omega, two, ?_⟩
  intro kept binds
  rw [Levy.slack_of_capped (kept ▸ binds)] at sum
  omega

/-- Of 100 coins at 1 % with a cap of 1 million, 99 can be sent. -/
theorem deductTax_sound_tight_hundred :
    ∃ net, deductTax ⟨some ⟨⟨10 ^ 16, by norm_num⟩⟩, fun _ => some ⟨10 ^ 6, by norm_num⟩,
        fun _ _ => none, fun _ => none, fun _ => none, fun _ _ => none⟩
        ⟨"uusd", ⟨100, by norm_num⟩⟩ = .ok net ∧ net.denom = "uusd" ∧
      net.amount.val + Levy.onTop (10 ^ 18) (10 ^ 16) (10 ^ 6) net.amount.val ≤ 100 ∧
      100 < net.amount.val + 2 + Levy.onTop (10 ^ 18) (10 ^ 16) (10 ^ 6) (net.amount.val + 2) ∧
      (100 - net.amount.val = 10 ^ 6 →
        100 - net.amount.val < Levy.uncapped (10 ^ 18) (10 ^ 16) 100 →
        net.amount.val + Levy.onTop (10 ^ 18) (10 ^ 16) (10 ^ 6) net.amount.val = 100) :=
  deductTax_sound_tight ⟨some ⟨⟨10 ^ 16, by norm_num⟩⟩, fun _ => some ⟨10 ^ 6, by norm_num⟩,
    fun _ _ => none, fun _ => none, fun _ => none, fun _ _ => none⟩
    ⟨"uusd", ⟨100, by norm_num⟩⟩ rfl rfl (by norm_num)

/-- A sum that is sent in portions never comes out larger, and it loses at most a unit
for every further portion while the cap does not bind, and up to the cap once it
does. -/
theorem deductTax_portions (querier : Querier) (denom : String) (first : Uint128)
    (portions : List Uint128) (whole : Uint128) {net : Coin}
    (sum : whole.val = first.val + (portions.map Word.val).sum)
    (atOnce : deductTax querier ⟨denom, whole⟩ = .ok net) :
    ∃ nets rate cap, querier.taxRate = some rate ∧ querier.taxCap denom = some cap ∧
      (first :: portions).mapM (fun amount => deductTax querier ⟨denom, amount⟩) = .ok nets ∧
      (nets.map fun part => part.amount.val).sum ≤ net.amount.val ∧
      (Levy.uncapped (10 ^ 18) rate.val whole.val ≤ cap.val →
        net.amount.val ≤ (nets.map fun part => part.amount.val).sum + portions.length) ∧
      (cap.val < Levy.uncapped (10 ^ 18) rate.val whole.val → net.amount.val ≤
        (nets.map fun part => part.amount.val).sum + portions.length * cap.val) := by
  have scale : 0 < 10 ^ 18 := by norm_num
  obtain ⟨rate, cap, hrate, hcap, fits⟩ := deductTax_answers atOnce
  have total := deductTax_net atOnce hrate hcap
  choose part done _ value using
    fun amount : Uint128 => deductTax_of_fits ⟨denom, amount⟩ hrate hcap fits
  have values (f : ℕ → ℕ) (each : ∀ amount, (part amount).amount.val = f amount.val) :
      (((first :: portions).map part).map fun part => part.amount.val) =
        ((first :: portions).map Word.val).map f := by
    rw [List.map_map, List.map_map]
    exact List.map_congr_left fun amount _ => each amount
  have whole_sum : whole.val = ((first :: portions).map Word.val).sum := by
    rw [sum, List.map_cons, List.sum_cons]
  refine ⟨_, rate, cap, hrate, hcap, mapM_ok fun amount _ => done amount, ?_, ?_, ?_⟩
  · rw [values _ value, total, whole_sum]
    exact Levy.net_sum_le (10 ^ 18) rate.val cap.val _
  · intro free
    rw [sum] at free
    have loss := Levy.net_le_sum_of_uncapped scale (portions.map Word.val) free
    rw [List.length_map] at loss
    rw [values _ value, total, sum, List.map_cons, List.map_cons, List.sum_cons]
    exact loss
  · intro binds
    rw [sum] at binds
    have loss := Levy.net_le_sum_of_capped (portions.map Word.val) binds
    rw [List.length_map] at loss
    rw [values _ value, total, sum, List.map_cons, List.map_cons, List.sum_cons]
    exact loss

/-- A tax of 1 % with a cap of a million, and no other answers. -/
def onePercent : Querier where
  taxRate := some ⟨.ofNat (10 ^ 16)⟩
  taxCap _ := some (.ofNat (10 ^ 6))
  balance _ _ := none
  loterraConfig _ := none
  epochState _ := none
  cw20Balance _ _ := none

/-- 300 coins at once leave 297, in two halves 296. -/
theorem deductTax_portions_halves : ∃ net nets,
    deductTax onePercent ⟨"uusd", .ofNat 300⟩ = .ok net ∧
      [Word.ofNat 150, .ofNat 150].mapM (fun amount => deductTax onePercent ⟨"uusd", amount⟩) =
        .ok nets ∧
      (nets.map fun part => part.amount.val).sum ≤ net.amount.val ∧ net.amount.val = 297 := by
  obtain ⟨net, atOnce, value⟩ : ∃ net,
    deductTax onePercent ⟨"uusd", .ofNat 300⟩ = .ok net ∧ net.amount.val = 297 := by decide +kernel
  obtain ⟨nets, _, _, _, _, each, within, _⟩ := deductTax_portions onePercent "uusd" (.ofNat 150)
    [.ofNat 150] (.ofNat 300) (by decide) atOnce
  exact ⟨net, nets, atOnce, each, within, value⟩

end DogetherContracts
