import DogetherContracts.CosmWasm.Message
import DogetherContracts.Lib.Table

/-! # The cw20 token

state.rs, msg.rs and contract.rs of cw20-contract-dogether. The contract version
that `instantiate` records is left out: nothing reads it. -/
namespace DogetherContracts.Cw20
open Checked

structure MinterData where
  minter : Addr
  cap : Option Uint128
  deriving DecidableEq, Repr

structure TokenInfo where
  name : String
  symbol : String
  decimals : Word 8
  totalSupply : Uint128
  mint : Option MinterData
  deriving DecidableEq, Repr

def TokenInfo.getCap (info : TokenInfo) : Option Uint128 := info.mint.bind (·.cap)

structure Storage where
  tokenInfo : TokenInfo
  balances : Table Addr Uint128

def Storage.balanceOf (st : Storage) (a : Addr) : Uint128 := (st.balances.lookup a).getD 0

def isValidName (name : String) : Bool :=
  decide (3 ≤ name.utf8ByteSize ∧ name.utf8ByteSize ≤ 50)

def isValidSymbol (symbol : String) : Bool :=
  let bytes := symbol.toUTF8.toList
  decide (3 ≤ bytes.length ∧ bytes.length ≤ 12) &&
    bytes.all fun byte =>
      byte == 45 || (decide (65 ≤ byte) && decide (byte ≤ 90)) ||
        (decide (97 ≤ byte) && decide (byte ≤ 122))

def InstantiateMsg.validate (msg : InstantiateMsg) : Except Fault Unit := do
  rejectIf (isValidName msg.name = false)
    (genericErr "Name is not in the expected format (3-50 UTF-8 bytes)")
  rejectIf (isValidSymbol msg.symbol = false)
    (genericErr "Ticker symbol is not in expected format [a-zA-Z\\-]\x7b3,12\x7d")
  rejectIf (18 < msg.decimals.val) (genericErr "Decimals must not exceed 18")

/-- The loop of `create_accounts`: every row overwrites the balance of its
address, and adds to the supply. -/
def createAccounts (api : Api) (balances : Table Addr Uint128) (totalSupply : Uint128) :
    List Cw20Coin → Except Fault (Table Addr Uint128 × Uint128)
  | [] => .ok (balances, totalSupply)
  | row :: accounts => do
    let address ← api.validate row.address
    let totalSupply ← totalSupply.add .panic row.amount
    createAccounts api (balances.insert address row.amount) totalSupply accounts

def instantiate (api : Api) (info : MessageInfo) (msg : InstantiateMsg) :
    Except Fault (Storage × Response) := do
  msg.validate
  let (balances, totalSupply) ← createAccounts api ∅ 0 msg.initialBalances
  pure (⟨⟨msg.name, msg.symbol, msg.decimals, totalSupply, some ⟨info.sender, none⟩⟩, balances⟩,
    .new)

def overCap (info : TokenInfo) (totalSupply : Uint128) : Bool :=
  match info.getCap with
  | some limit => decide (limit < totalSupply)
  | none => false

def executeBond (api : Api) (info : MessageInfo) (st : Storage) (contract : String)
    (amount : Uint128) (msg : Binary) (recipient : String) : Except Fault (Storage × Response) := do
  rejectIf (amount.val = 0) (.cw20 .invalidZeroAmount)
  rejectIf (st.tokenInfo.mint.map (·.minter) ≠ some info.sender) (.cw20 .unauthorized)
  let totalSupply ← st.tokenInfo.totalSupply.add .panic amount
  rejectIf (overCap st.tokenInfo totalSupply = true) (.cw20 .cannotExceedCap)
  let rcptAddr ← api.validate contract
  let balance ← (st.balanceOf rcptAddr).add .panic amount
  pure (⟨{ st.tokenInfo with totalSupply }, st.balances.insert rcptAddr balance⟩,
    Response.new
      |>.addMessage (.execute contract (.staking (.receive ⟨recipient, amount, msg⟩)) [])
      |>.addAttribute "action" "bond"
      |>.addAttribute "from" info.sender
      |>.addAttribute "to" contract
      |>.addAttribute "amount" amount.toString)

def executeBurn (info : MessageInfo) (st : Storage) (amount : Uint128) :
    Except Fault (Storage × Response) := do
  rejectIf (amount.val = 0) (.cw20 .invalidZeroAmount)
  let balance ← (st.balanceOf info.sender).sub overflow amount
  let totalSupply ← st.tokenInfo.totalSupply.sub overflow amount
  pure (⟨{ st.tokenInfo with totalSupply }, st.balances.insert info.sender balance⟩,
    Response.new
      |>.addAttribute "action" "burn"
      |>.addAttribute "from" info.sender
      |>.addAttribute "amount" amount.toString)

def execute (api : Api) (info : MessageInfo) (st : Storage) :
    ExecuteMsg → Except Fault (Storage × Response)
  | .burn amount => executeBurn info st amount
  | .bond contract amount msg recipient => executeBond api info st contract amount msg recipient

/-! What a successful execute established, and what it did. -/

structure Bonded (info : MessageInfo) (st : Storage) (contract : String) (amount : Uint128)
    (msg : Binary) (recipient : String) (st' : Storage) (res : Response) : Prop where
  positive : 0 < amount.val
  minter : st.tokenInfo.mint.map (·.minter) = some info.sender
  supply : st'.tokenInfo.totalSupply.val = st.tokenInfo.totalSupply.val + amount.val
  mint : st'.tokenInfo.mint = st.tokenInfo.mint
  balances : ∃ balance : Uint128, balance.val = (st.balanceOf contract).val + amount.val ∧
    st'.balances = st.balances.insert contract balance
  message : res.messages =
    [⟨.execute contract (.staking (.receive ⟨recipient, amount, msg⟩)) [], none⟩]

structure Burned (info : MessageInfo) (st : Storage) (amount : Uint128) (st' : Storage)
    (res : Response) : Prop where
  positive : 0 < amount.val
  supply : st'.tokenInfo.totalSupply.val + amount.val = st.tokenInfo.totalSupply.val
  mint : st'.tokenInfo.mint = st.tokenInfo.mint
  balances : ∃ balance : Uint128, balance.val + amount.val = (st.balanceOf info.sender).val ∧
    st'.balances = st.balances.insert info.sender balance
  message : res.messages = []

theorem executeBond_ok {api : Api} {info : MessageInfo} {st st' : Storage} {contract : String}
    {amount : Uint128} {msg : Binary} {recipient : String} {res : Response}
    (h : executeBond api info st contract amount msg recipient = .ok (st', res)) :
    Bonded info st contract amount msg recipient st' res := by
  simp only [executeBond, bind_ok, rejectIf_ok, Word.add_ok, pure_ok, Prod.mk.injEq] at h
  obtain ⟨_, positive, _, minter, supply, hsupply, _, _, rcpt, hrcpt, balance, hbalance, rfl,
    rfl⟩ := h
  obtain rfl := Api.validate_ok hrcpt
  exact ⟨Nat.pos_of_ne_zero positive, not_not.mp minter, hsupply, rfl, ⟨balance, hbalance, rfl⟩,
    rfl⟩

theorem executeBurn_ok {info : MessageInfo} {st st' : Storage} {amount : Uint128} {res : Response}
    (h : executeBurn info st amount = .ok (st', res)) : Burned info st amount st' res := by
  simp only [executeBurn, bind_ok, rejectIf_ok, Word.sub_ok, pure_ok, Prod.mk.injEq] at h
  obtain ⟨_, positive, balance, hbalance, supply, hsupply, rfl, rfl⟩ := h
  exact ⟨Nat.pos_of_ne_zero positive, hsupply, rfl, ⟨balance, hbalance, rfl⟩, rfl⟩

/-- The two checks of a burn are all it takes. -/
theorem executeBurn_of_le {info : MessageInfo} {st : Storage} {amount : Uint128}
    (positive : 0 < amount.val) (held : amount.val ≤ (st.balanceOf info.sender).val)
    (supplied : amount.val ≤ st.tokenInfo.totalSupply.val) :
    ∃ r, executeBurn info st amount = .ok r := by
  obtain ⟨balance, hbalance⟩ := Word.sub_of_le (e := overflow) held
  obtain ⟨supply, hsupply⟩ := Word.sub_of_le (e := overflow) supplied
  simp only [executeBurn, rejectIf_neg _ (Nat.ne_of_gt positive), hbalance, hsupply, ok_bind]
  exact ⟨_, rfl⟩

end DogetherContracts.Cw20
