import DogetherContracts.Cw20.Contract
import DogetherContracts.Lib.Paging

/-! # Queries of the token

The queries of contract.rs, and the paginated list of accounts of enumerable.rs.
Balances are stored under the bytes of their addresses; the list is ordered by
these bytes, and reads them back as strings. -/
namespace DogetherContracts.Cw20
open Checked Paging

structure TokenInfoResponse where
  name : String
  symbol : String
  decimals : Word 8
  totalSupply : Uint128
  deriving DecidableEq, Repr

structure MinterResponse where
  minter : Addr
  cap : Option Uint128
  deriving DecidableEq, Repr

def queryBalance (api : Api) (st : Storage) (address : String) : Except Fault Uint128 := do
  let address ← api.validate address
  pure (st.balanceOf address)

def queryTokenInfo (st : Storage) : TokenInfoResponse :=
  ⟨st.tokenInfo.name, st.tokenInfo.symbol, st.tokenInfo.decimals, st.tokenInfo.totalSupply⟩

def queryMinter (st : Storage) : Option MinterResponse :=
  st.tokenInfo.mint.map fun m => ⟨m.minter, m.cap⟩

/-- A string as a key of the store. -/
def keyOf (s : String) : List (Fin 256) := s.toUTF8.data.toList.map UInt8.toFin

/-- `String::from_utf8`. -/
def fromUtf8 (key : List (Fin 256)) : Option String :=
  String.fromUTF8? ⟨(key.map UInt8.ofFin).toArray⟩

def maxLimit : ℕ := 30
def defaultLimit : ℕ := 10

def pageSize (limit : Option (Word 32)) : ℕ :=
  Nat.min ((limit.map Word.val).getD defaultLimit) maxLimit

/-- The stored accounts, in the order of their keys. -/
def Storage.accounts (st : Storage) : List Addr :=
  (st.balances.keys.image keyOf).sort.filterMap fromUtf8

section Accounts

variable {st : Storage} {limit : Option (Word 32)}

end Accounts

end DogetherContracts.Cw20
