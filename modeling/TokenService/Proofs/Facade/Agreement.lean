import TokenService.Proofs.Facade.Fungible
import TokenService.Proofs.Settlement.Overflow
import TokenService.Proofs.Settlement.Register

set_option autoImplicit false

namespace TokenService

open Abi

namespace Struct

def nameOf : tokenInfo.Val → String
  | ((name, _), _) => name

def symbolOf : tokenInfo.Val → String
  | ((_, symbol, _), _) => symbol

def supplyOf : tokenInfo.Val → Int64
  | (_, supply, _) => supply

def decimalsOf : fungibleInfo.Val → Int32
  | (_, decimals, ()) => decimals

def ownerOf : nftInfo.Val → Address
  | (_, _, owner, _) => owner

def metadataOf : nftInfo.Val → Bytes
  | (_, _, _, _, metadata, _) => metadata

def spenderOf : nftInfo.Val → Address
  | (_, _, _, _, _, spender, ()) => spender

end Struct

namespace Query

def subject? : Query → Option TokenId
  | .info token => some token
  | .fungibleInfo token => some token
  | .nftInfo id => some id.token
  | _ => none

def Describes (long : Bytes) (info : Struct.tokenInfo.Val) : Query → Prop
  | .info _ => decode [.int32, Struct.tokenInfo] long = .ok (Status.success.number, info, ())
  | .fungibleInfo _ => ∃ rest, decode [.int32, Struct.fungibleInfo] long = .ok (Status.success.number, (info, rest), ())
  | .nftInfo _ => ∃ rest, decode [.int32, Struct.nftInfo] long = .ok (Status.success.number, (info, rest), ())
  | _ => False

-- The facade's answer to the first question and the service's answer to the second, where both are
-- about the same thing.
def Agree (short long : Bytes) : Query → Query → Prop
  | .name token, told => told.subject? = some token →
      ∃ info, told.Describes long info ∧ decode [.string] short = .ok (Struct.nameOf info, ())
  | .symbol token, told => told.subject? = some token →
      ∃ info, told.Describes long info ∧ decode [.string] short = .ok (Struct.symbolOf info, ())
  | .totalSupply token, told => told.subject? = some token →
      ∃ info word, told.Describes long info ∧ decode [.uint256] short = .ok (word, ()) ∧
        (word.toNat : Int) = (Struct.supplyOf info).toInt
  | .decimals token, .fungibleInfo other => token = other →
      ∃ info word, decode [.int32, Struct.fungibleInfo] long = .ok (Status.success.number, info, ()) ∧
        decode [.uint256] short = .ok (word, ()) ∧ (word.toNat : Int) = min (Struct.decimalsOf info).toInt 255
  | .ownerOf id, .nftInfo other => id = other →
      ∃ info, decode [.int32, Struct.nftInfo] long = .ok (Status.success.number, info, ()) ∧
        decode [.address] short = .ok (Struct.ownerOf info, ())
  | .tokenUri id, .nftInfo other => id = other →
      ∃ info, decode [.int32, Struct.nftInfo] long = .ok (Status.success.number, info, ()) ∧
        ∀ text, Struct.metadataOf info = Utf8.encode text → decode [.string] short = .ok (text, ())
  | .getApproved id, .nftInfo other => id = other →
      ∃ info, decode [.int32, Struct.nftInfo] long = .ok (Status.success.number, info, ()) ∧
        decode [.address] short = .ok (Struct.spenderOf info, ())
  | .getApproved id, .getApproved other => id = other →
      ∃ spender, decode [.int32, .address] long = .ok (Status.success.number, spender, ()) ∧
        decode [.address] short = .ok (spender, ())
  | .allowance token owner spender, .allowance token' owner' spender' =>
      token = token' ∧ owner = owner' ∧ spender = spender' →
      ∃ word, decode [.int32, .uint256] long = .ok (Status.success.number, word, ()) ∧
        decode [.uint256] short = .ok (word, ())
  | .isApprovedForAll token owner operator, .isApprovedForAll token' owner' operator' =>
      token = token' ∧ owner = owner' ∧ operator = operator' →
      ∃ approved, decode [.int32, .bool] long = .ok (Status.success.number, approved, ()) ∧
        decode [.bool] short = .ok (approved, ())
  | _, _ => True

end Query

section Answers

variable (ledger : Ledger) (ledgerId : String)

theorem known_token (id : TokenId) (row : Token) (known : (View.mk ledger {}).knownToken id = .ok row) :
    ledger.tokens.get? id = some row :=
  (View.demand_ok _ _ _).mp known

theorem nft_described (id : NftId) (answer : Answer) (answered : (View.mk ledger {}).answer (.nftInfo id) = .ok answer)
    (room : (answer.encode .direct ledgerId).length < UInt64.size) :
    ∃ row nft, ledger.tokens.get? id.token = some row ∧ ledger.nfts.get? id = some nft ∧
      decode [.int32, Struct.nftInfo] (answer.encode .direct ledgerId) =
        .ok (Status.success.number, Struct.ofNftInfo ledgerId row nft, ()) := by
  obtain ⟨row, known, answered⟩ := (except_bind_ok _ _ _).mp answered
  obtain ⟨nft, there, same⟩ := (except_bind_ok _ _ _).mp answered
  cases same
  exact ⟨row, nft, known_token ledger _ row known, (View.demand_ok _ _ _).mp there, decode_written _ rfl _ room⟩

theorem fungible_described (id : TokenId) (row : Token) (found : ledger.tokens.get? id = some row) (answer : Answer)
    (answered : (View.mk ledger {}).answer (.fungibleInfo id) = .ok answer)
    (room : (answer.encode .direct ledgerId).length < UInt64.size) :
    decode [.int32, Struct.fungibleInfo] (answer.encode .direct ledgerId) =
      .ok (Status.success.number, Struct.ofFungibleInfo ledgerId row, ()) := by
  obtain ⟨other, known, same⟩ := (except_bind_ok _ _ _).mp answered
  cases same
  cases found.symm.trans (known_token ledger _ other known)
  exact decode_written _ rfl _ room

theorem described (id : TokenId) (row : Token) (found : ledger.tokens.get? id = some row) (told : Query)
    (about : told.subject? = some id) (answer : Answer) (answered : (View.mk ledger {}).answer told = .ok answer)
    (room : (answer.encode .direct ledgerId).length < UInt64.size) :
    told.Describes (answer.encode .direct ledgerId) (Struct.ofTokenInfo ledgerId row) := by
  cases told with
  | info token =>
      cases about
      obtain ⟨other, known, same⟩ := (except_bind_ok _ _ _).mp answered
      cases same
      cases found.symm.trans (known_token ledger _ other known)
      exact decode_written _ rfl _ room
  | fungibleInfo token =>
      cases about
      exact ⟨_, fungible_described ledger ledgerId id row found answer answered room⟩
  | nftInfo nft =>
      cases about
      obtain ⟨other, _, known, _, read⟩ := nft_described ledger ledgerId nft answer answered room
      cases found.symm.trans known
      exact ⟨_, read⟩
  | _ => cases about

theorem decimals_clamped (decimals : UInt32) :
    ((BitVec.ofNat 256 (min decimals.toNat 255)).toNat : Int) =
      min ((int32? decimals.toNat).getD Int32.maxValue).toInt 255 := by
  have wide : min decimals.toNat 255 < 2 ^ 256 := Nat.lt_of_le_of_lt (Nat.min_le_right _ _) (by decide)
  rw [BitVec.toNat_ofNat, Nat.mod_eq_of_lt wide]
  cases told : int32? decimals.toNat with
  | some value =>
      have same := (int32_some_iff _ _).mp told
      rw [Option.getD_some]
      omega
  | none =>
      have low : Int32.minValue.toInt = -2147483648 := by decide
      have high : Int32.maxValue.toInt = 2147483647 := by decide
      have beyond : ¬ (Int32.minValue.toInt ≤ decimals.toNat ∧ decimals.toNat ≤ Int32.maxValue.toInt) := by
        intro range
        rw [int32?, if_pos range] at told
        cases told
      rw [Option.getD_none]
      omega

theorem amount_told (amount : Int64) (floor : 0 ≤ amount.toInt) : ((amountWord amount).toNat : Int) = amount.toInt := by
  have bound := Int64.toInt_le amount
  have high : Int64.maxValue.toInt = 9223372036854775807 := by decide
  rw [amount_word, BitVec.toNat_ofNat]
  omega

theorem spender_told (nft : Nft) : (nft.spender.getD .zero).toAddress = Struct.optionalAddress nft.spender := by
  cases nft.spender <;> rfl

theorem nft_answers_agree (here there : String) (token : TokenId) (explicit : Bool) (id : NftId) (asked : Query)
    (short long : Answer) (about : asked = .ownerOf id ∨ asked = .tokenUri id ∨ asked = .getApproved id)
    (answered : (View.mk ledger {}).answer asked = .ok short)
    (also : (View.mk ledger {}).answer (.nftInfo id) = .ok long)
    (roomHere : (short.encode (.redirect token explicit) here).length < UInt64.size)
    (roomThere : (long.encode .direct there).length < UInt64.size) :
    asked.Agree (short.encode (.redirect token explicit) here) (long.encode .direct there) (.nftInfo id) := by
  obtain ⟨row, nft, found, issued, described⟩ := nft_described ledger there id long also roomThere
  have there : (View.mk ledger {}).knownNft id = .ok nft := (View.demand_ok _ _ _).mpr issued
  rcases about with rfl | rfl | rfl
  · intro _
    refine ⟨_, described, ?_⟩
    cases answered.symm.trans (owner_answer nft row _ id issued found)
    exact decode_written _ rfl _ roomHere
  · intro _
    refine ⟨_, described, fun text written => ?_⟩
    have said : short = .text text := by
      have present : (View.mk ledger {}).nft id = some nft := issued
      have written : nft.metadata = Utf8.encode text := written
      rw [View.answer, present, Option.map_some, Option.getD_some, written, Utf8.decode_encode_text] at answered
      cases answered
      rfl
    subst said
    exact decode_written _ rfl _ roomHere
  · intro _
    refine ⟨_, described, ?_⟩
    simp only [View.answer, there, bind, Except.bind, pure, Except.pure] at answered
    cases answered
    have read := decode_written [.address] rfl ((nft.spender.getD .zero).toAddress, ()) roomHere
    rw [spender_told] at read
    rw [Answer.encode, spender_told]
    exact read

variable (here there : String) (token : TokenId) (explicit : Bool)
  (floor : ledger.AllRows fun row => 0 ≤ row.totalSupply.toInt)
include floor

theorem answers_agree (asked told : Query) (short long : Answer)
    (answered : (View.mk ledger {}).answer asked = .ok short) (also : (View.mk ledger {}).answer told = .ok long)
    (roomHere : (short.encode (.redirect token explicit) here).length < UInt64.size)
    (roomThere : (long.encode .direct there).length < UInt64.size) :
    asked.Agree (short.encode (.redirect token explicit) here) (long.encode .direct there) told := by
  cases asked with
  | name id =>
      intro about
      obtain ⟨row, known, same⟩ := (except_bind_ok _ _ _).mp answered
      cases same
      exact ⟨_, described ledger there id row (known_token ledger id row known) told about long also roomThere,
        decode_written _ rfl _ roomHere⟩
  | symbol id =>
      intro about
      obtain ⟨row, known, same⟩ := (except_bind_ok _ _ _).mp answered
      cases same
      exact ⟨_, described ledger there id row (known_token ledger id row known) told about long also roomThere,
        decode_written _ rfl _ roomHere⟩
  | totalSupply id =>
      intro about
      obtain ⟨row, known, same⟩ := (except_bind_ok _ _ _).mp answered
      cases same
      have found := known_token ledger id row known
      exact ⟨_, _, described ledger there id row found told about long also roomThere, decode_written _ rfl _ roomHere,
        amount_told _ (floor id row found)⟩
  | decimals id =>
      cases told with
      | fungibleInfo other =>
          rintro rfl
          obtain ⟨row, known, same⟩ := (except_bind_ok _ _ _).mp answered
          cases same
          exact ⟨_, _, fungible_described ledger there id row (known_token ledger id row known) long also roomThere,
            decode_written _ rfl _ roomHere, decimals_clamped row.decimals⟩
      | _ => exact trivial
  | ownerOf id =>
      cases told with
      | nftInfo other =>
          intro same
          exact nft_answers_agree ledger here there token explicit id _ short long (.inl rfl) answered (same ▸ also)
            roomHere roomThere rfl
      | _ => exact trivial
  | tokenUri id =>
      cases told with
      | nftInfo other =>
          intro same
          exact nft_answers_agree ledger here there token explicit id _ short long (.inr (.inl rfl)) answered
            (same ▸ also) roomHere roomThere rfl
      | _ => exact trivial
  | getApproved id =>
      cases told with
      | nftInfo other =>
          intro same
          exact nft_answers_agree ledger here there token explicit id _ short long (.inr (.inr rfl)) answered
            (same ▸ also) roomHere roomThere rfl
      | getApproved other =>
          rintro rfl
          cases answered.symm.trans also
          obtain ⟨nft, _, same⟩ := (except_bind_ok _ _ _).mp answered
          cases same
          exact ⟨_, decode_written _ rfl _ roomThere, decode_written _ rfl _ roomHere⟩
      | _ => exact trivial
  | allowance id owner spender =>
      cases told with
      | allowance other otherOwner otherSpender =>
          rintro ⟨rfl, rfl, rfl⟩
          cases answered.symm.trans also
          obtain ⟨_, _, answered⟩ := (except_bind_ok _ _ _).mp answered
          obtain ⟨_, _, same⟩ := (except_bind_ok _ _ _).mp answered
          cases same
          exact ⟨_, decode_written _ rfl _ roomThere, decode_written _ rfl _ roomHere⟩
      | _ => exact trivial
  | isApprovedForAll id owner operator =>
      cases told with
      | isApprovedForAll other otherOwner otherOperator =>
          rintro ⟨rfl, rfl, rfl⟩
          cases answered.symm.trans also
          obtain ⟨_, _, same⟩ := (except_bind_ok _ _ _).mp answered
          cases same
          exact ⟨_, decode_written _ rfl _ roomThere, decode_written _ rfl _ roomHere⟩
      | _ => exact trivial
  | _ => exact trivial

end Answers

/-- After any run of calls on a store where no supply is below zero, what the facade of a token tells in a successful
call and what the service tells about the same thing in another agree: names, symbols, supplies, owners, spenders,
texts, allowances and approvals are the same, and the decimals of the facade are those of the service up to 255. -/
theorem facade_agrees_with_service (calls : List Call) (start : Ledger)
    (floor : start.AllRows fun row => 0 ≤ row.totalSupply.toInt) (facade service : Call) (token : TokenId)
    (explicit : Bool) (asked told : Query) (short long : Bytes)
    (here : facade.Learns (afterAll calls start) (.redirect token explicit) asked short)
    (there : service.Learns (afterAll calls start) .direct told long) : asked.Agree short long told := by
  obtain ⟨answer, answered, rfl⟩ := learns_answer facade _ _ asked short here
  obtain ⟨other, also, rfl⟩ := learns_answer service _ _ told long there
  exact answers_agree _ _ _ token explicit (supplies_stay calls start floor) asked told answer other answered also
    here.room there.room

namespace Sample

def dustRequest : ServiceRequest := ⟨.createFungible .third, (artwork.token, (100 : Int64), (256 : Int32), ())⟩

def dusted : Ledger := afterAll [call dustRequest.bytes] ledger

def dustAsked : Call := call (ServiceRequest.bytes ⟨.getFungibleTokenInfo, (founded.toAddress, ())⟩)

def dustRow : Token := (dusted.tokens.get? founded).getD {}

def dustShort : Bytes := encode [.uint256] (BitVec.ofNat 256 255, ())

def dustLong : Bytes :=
  encode [.int32, Struct.fungibleInfo] (Status.success.number, Struct.ofFungibleInfo "0x03" dustRow, ())

theorem dust_told :
    (facade founded .decimals ()).Learns dusted (.redirect founded true) (.decimals founded) dustShort ∧
      dustAsked.Learns dusted .direct (.fungibleInfo founded) dustLong := by
  obtain ⟨⟨first, asks, short, little⟩, second, wonders, long, much⟩ :
      (((facade founded .decimals ()).settled dusted).succeeds ∧
        dispatch ((facade founded .decimals ()).setting dusted) (facade founded .decimals ()).input =
          .ok (some ⟨FacadeFunction.decimals.selector, .query (.decimals founded), .redirect founded true⟩) ∧
        (facade founded .decimals ()).output? dusted = some dustShort ∧ dustShort.length < UInt64.size) ∧
      (dustAsked.settled dusted).succeeds ∧
        dispatch (dustAsked.setting dusted) dustAsked.input =
          .ok (some ⟨ServiceFunction.getFungibleTokenInfo.selector, .query (.fungibleInfo founded), .direct⟩) ∧
        dustAsked.output? dusted = some dustLong ∧ dustLong.length < UInt64.size := by
    decide +kernel
  exact ⟨⟨first, ⟨_, asks⟩, short, little⟩, second, ⟨_, wonders⟩, long, much⟩

end Sample

theorem dust_agrees :
    ∃ info word, decode [.int32, Struct.fungibleInfo] Sample.dustLong = .ok (Status.success.number, info, ()) ∧
      decode [.uint256] Sample.dustShort = .ok (word, ()) ∧
      (word.toNat : Int) = min (Struct.decimalsOf info).toInt 255 :=
  facade_agrees_with_service [Sample.call Sample.dustRequest.bytes] Sample.ledger Sample.ledger_roomy.supplies
    (Sample.facade Sample.founded .decimals ()) Sample.dustAsked Sample.founded true (.decimals Sample.founded)
    (.fungibleInfo Sample.founded) Sample.dustShort Sample.dustLong Sample.dust_told.1 Sample.dust_told.2 rfl

theorem decimals_beyond_facade :
    ¬ ∀ (calls : List Call) (start : Ledger) (facade service : Call) (token : TokenId) (explicit : Bool)
      (short long : Bytes) (info : Struct.fungibleInfo.Val) (word : Word), start.Roomy →
      facade.Learns (afterAll calls start) (.redirect token explicit) (.decimals token) short →
      service.Learns (afterAll calls start) .direct (.fungibleInfo token) long →
      decode [.int32, Struct.fungibleInfo] long = .ok (Status.success.number, info, ()) →
      decode [.uint256] short = .ok (word, ()) → (word.toNat : Int) = (Struct.decimalsOf info).toInt := by
  intro always
  have same := always [Sample.call Sample.dustRequest.bytes] Sample.ledger (Sample.facade Sample.founded .decimals ())
    Sample.dustAsked Sample.founded true Sample.dustShort Sample.dustLong (Struct.ofFungibleInfo "0x03" Sample.dustRow)
    (BitVec.ofNat 256 255) Sample.ledger_roomy Sample.dust_told.1 Sample.dust_told.2
    (decode_written _ rfl _ Sample.dust_told.2.room) (decode_written _ rfl _ Sample.dust_told.1.room)
  exact absurd same (by decide +kernel)

end TokenService
