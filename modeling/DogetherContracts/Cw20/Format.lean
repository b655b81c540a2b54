import DogetherContracts.Cw20.Queries
import DogetherContracts.Lib.Ascii

/-! # What the token accepts at its instantiation

The checks of msg.rs and the loop over the initial balances, as conditions on the
message, and the token that comes of an accepted one. -/
namespace DogetherContracts.Cw20
open Checked

/-- The format the message has to have. The bytes of the name are counted, not its
characters; the bytes of a ticker symbol are its characters. -/
structure WellFormed (msg : InstantiateMsg) : Prop where
  name : 3 ≤ msg.name.utf8ByteSize ∧ msg.name.utf8ByteSize ≤ 50
  length : 3 ≤ msg.symbol.toList.length ∧ msg.symbol.toList.length ≤ 12
  symbol : ∀ c ∈ msg.symbol.toList, c = '-' ∨ c.isAlpha = true
  decimals : msg.decimals.val ≤ 18

/-- What all rows together credit. -/
def listed (accounts : List Cw20Coin) : ℕ := (accounts.map fun row => row.amount.val).sum

/-- The amount of the last row of an address. -/
def lastAmount (accounts : List Cw20Coin) (a : Addr) : Option Uint128 :=
  (accounts.reverse.find? fun row => row.address = a).map Cw20Coin.amount

/-! The byte check is a check of characters. -/

/-- A byte that `is_valid_symbol` lets pass. -/
def SymbolByte (b : UInt8) : Prop :=
  b.toNat = 45 ∨ (65 ≤ b.toNat ∧ b.toNat ≤ 90) ∨ (97 ≤ b.toNat ∧ b.toNat ≤ 122)

theorem SymbolByte.ascii {b : UInt8} (h : SymbolByte b) : b.toNat < 128 := by
  rcases h with h | h | h <;> omega

theorem symbolByte_iff (c : Char) :
    c.toNat < 128 ∧ SymbolByte (.ofNat c.toNat) ↔ c = '-' ∨ c.isAlpha = true := by
  have hyphen : c = '-' ↔ c.toNat = 45 := by
    rw [← Char.toNat_inj]
    rfl
  have alpha : c.isAlpha = true ↔
      (65 ≤ c.toNat ∧ c.toNat ≤ 90) ∨ (97 ≤ c.toNat ∧ c.toNat ≤ 122) := by
    simp only [Char.isAlpha, Char.isUpper, Char.isLower, Bool.or_eq_true, Bool.and_eq_true,
      decide_eq_true_eq, ge_iff_le, UInt32.le_iff_toNat_le]
    rfl
  rw [hyphen, alpha, SymbolByte, UInt8.toNat_ofNat']
  omega

theorem isValidSymbol_iff (symbol : String) : isValidSymbol symbol = true ↔
    (3 ≤ symbol.toList.length ∧ symbol.toList.length ≤ 12) ∧
      ∀ c ∈ symbol.toList, c = '-' ∨ c.isAlpha = true := by
  have bytes : (∀ b ∈ symbol.toUTF8.toList, SymbolByte b) ↔
      ∀ c ∈ symbol.toList, c = '-' ∨ c.isAlpha = true := by
    rw [Ascii.bytes_iff fun b => SymbolByte.ascii]
    exact forall₂_congr fun c _ => symbolByte_iff c
  have checked : isValidSymbol symbol = true ↔
      (3 ≤ symbol.toUTF8.toList.length ∧ symbol.toUTF8.toList.length ≤ 12) ∧
        ∀ b ∈ symbol.toUTF8.toList, SymbolByte b := by
    simp only [isValidSymbol, Bool.and_eq_true, decide_eq_true_eq, List.all_eq_true,
      Bool.or_eq_true, beq_iff_eq, or_assoc, SymbolByte, UInt8.le_iff_toNat_le, ← UInt8.toNat_inj]
    rfl
  rw [checked, bytes, and_congr_left_iff]
  intro letters
  rw [Ascii.length_bytes fun c member => ((symbolByte_iff c).mpr (letters c member)).1]

theorem validate_iff (msg : InstantiateMsg) : msg.validate = .ok () ↔ WellFormed msg := by
  have name : isValidName msg.name = true ↔
      3 ≤ msg.name.utf8ByteSize ∧ msg.name.utf8ByteSize ≤ 50 := decide_eq_true_iff
  simp only [InstantiateMsg.validate, bind_ok, rejectIf_ok, Bool.not_eq_false, name,
    isValidSymbol_iff, Nat.not_lt]
  constructor
  · rintro ⟨_, named, _, ⟨length, symbol⟩, decimals⟩
    exact ⟨named, length, symbol, decimals⟩
  · intro h
    exact ⟨(), h.name, (), ⟨h.length, h.symbol⟩, h.decimals⟩

/-! The loop over the initial balances. -/

section Accounts

variable {api : Api} {accounts : List Cw20Coin} {balances balances' : Table Addr Uint128}
  {supply supply' : Uint128}

/-- The loop stops at an address that is none, or at a supply out of range. -/
theorem createAccounts_iff (balances : Table Addr Uint128) (supply : Uint128) :
    (∃ r, createAccounts api balances supply accounts = .ok r) ↔
    (∀ row ∈ accounts, ∃ a, api.addrValidate row.address = some a) ∧
      supply.val + listed accounts < 2 ^ 128 := by
  induction accounts generalizing balances supply with
  | nil =>
      have fits := supply.lt
      simpa [createAccounts, listed] using fits
  | cons row accounts ih =>
      simp only [createAccounts, listed, List.map_cons, List.sum_cons, List.forall_mem_cons]
      constructor
      · rintro ⟨r, h⟩
        obtain ⟨a, valid, h⟩ := bind_ok.mp h
        obtain ⟨raised, hraised, h⟩ := bind_ok.mp h
        have sum := Word.add_ok.mp hraised
        obtain ⟨rest, fits⟩ := (ih _ _).mp ⟨r, h⟩
        rw [listed] at fits
        exact ⟨⟨⟨a, orReject_ok.mp valid⟩, rest⟩, by omega⟩
      · rintro ⟨⟨⟨a, valid⟩, rest⟩, fits⟩
        obtain ⟨raised, hraised⟩ := Word.add_of_lt (e := Fault.panic)
          (show supply.val + row.amount.val < 2 ^ 128 by omega)
        have sum := Word.add_ok.mp hraised
        obtain ⟨r, h⟩ := (ih (balances.insert a row.amount) raised).mpr
          ⟨rest, by rw [listed]; omega⟩
        refine ⟨r, ?_⟩
        rw [Api.validate, orReject_ok.mpr valid, ok_bind, hraised, ok_bind]
        exact h

theorem createAccounts_total
    (h : createAccounts api balances supply accounts = .ok (balances', supply')) :
    supply'.val = supply.val + listed accounts := by
  induction accounts generalizing balances supply with
  | nil =>
      cases h
      rfl
  | cons row accounts ih =>
      simp only [createAccounts, bind_ok, Word.add_ok] at h
      obtain ⟨_, _, raised, hraised, rest⟩ := h
      have later := ih rest
      simp only [listed, List.map_cons, List.sum_cons] at later ⊢
      omega

/-- Later rows overwrite earlier ones, and all of them what was there. -/
theorem createAccounts_lookup
    (h : createAccounts api balances supply accounts = .ok (balances', supply')) (a : Addr) :
    balances'.lookup a = (lastAmount accounts a).or (balances.lookup a) := by
  induction accounts generalizing balances supply with
  | nil =>
      cases h
      rfl
  | cons row accounts ih =>
      simp only [createAccounts, bind_ok] at h
      obtain ⟨address, valid, _, _, rest⟩ := h
      obtain rfl := Api.validate_ok valid
      rw [ih rest, lastAmount, lastAmount, List.reverse_cons, List.find?_append]
      cases found : accounts.reverse.find? fun row => row.address = a with
      | some later => rfl
      | none =>
          by_cases own : row.address = a
          · rw [own, Table.lookup_insert_eq]
            simp [own]
          · rw [Table.lookup_insert_ne _ _ (Ne.symm own)]
            simp [own]

end Accounts

/-- Instantiation takes a well-formed message, addresses of the chain, and a supply in
range. -/
theorem instantiate_accepted {api : Api} {info : MessageInfo} {msg : InstantiateMsg} :
    (∃ r, instantiate api info msg = .ok r) ↔
      WellFormed msg ∧ (∀ row ∈ msg.initialBalances, ∃ a, api.addrValidate row.address = some a) ∧
        listed msg.initialBalances < 2 ^ 128 := by
  have rows : (∃ r, createAccounts api ∅ 0 msg.initialBalances = .ok r) ↔ _ :=
    createAccounts_iff ∅ 0
  rw [Word.val_zero, Nat.zero_add] at rows
  rw [← validate_iff, ← rows]
  simp only [instantiate, bind_ok, pure_ok]
  constructor
  · rintro ⟨_, ⟨⟩, valid, created, hcreated, _⟩
    exact ⟨valid, created, hcreated⟩
  · rintro ⟨valid, created, hcreated⟩
    exact ⟨_, (), valid, created, hcreated, rfl⟩

/-- The token is instantiated exactly from a well-formed message with addresses of the
chain and a supply in range. Then its queries return the message's name, symbol and
decimals, the sum of all rows as the supply, the creator as a minter without a cap,
and for an address the amount of its last row. -/
theorem instantiate_exact (api : Api) (info : MessageInfo) (msg : InstantiateMsg) :
    ((∃ r, instantiate api info msg = .ok r) ↔
      WellFormed msg ∧ (∀ row ∈ msg.initialBalances, ∃ a, api.addrValidate row.address = some a) ∧
        listed msg.initialBalances < 2 ^ 128) ∧
    ∀ st res, instantiate api info msg = .ok (st, res) →
      (∃ totalSupply : Uint128, totalSupply.val = listed msg.initialBalances ∧
        queryTokenInfo st = ⟨msg.name, msg.symbol, msg.decimals, totalSupply⟩) ∧
      queryMinter st = some ⟨info.sender, none⟩ ∧
      ∀ address, queryBalance api st address =
        (api.validate address).map fun a => (lastAmount msg.initialBalances a).getD 0 := by
  refine ⟨instantiate_accepted, ?_⟩
  intro st res h
  simp only [instantiate, bind_ok, pure_ok, Prod.mk.injEq] at h
  obtain ⟨_, _, ⟨balances, totalSupply⟩, created, rfl, _⟩ := h
  have total := createAccounts_total created
  rw [Word.val_zero, Nat.zero_add] at total
  refine ⟨⟨totalSupply, total, rfl⟩, rfl, ?_⟩
  intro address
  have read (a : Addr) : (balances.lookup a).getD 0 =
      (lastAmount msg.initialBalances a).getD 0 := by
    rw [createAccounts_lookup created, Finmap.lookup_empty, Option.or_none]
  simp only [queryBalance, Storage.balanceOf, read]
  cases api.validate address <;> rfl

end DogetherContracts.Cw20
