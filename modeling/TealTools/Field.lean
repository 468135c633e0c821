import TealTools.Text.Numeral

/-!
# Named fields

Some immediates name a field.  Fields come in groups, and a field is encoded
by its place in its group.
-/

namespace TealTools

inductive FieldGroup where
  | txn
  | global
  | assetHolding
  | assetParams
  | appParams
  | acctParams
  | ecdsaCurve
  | base64Encoding
  | jsonRef
  | vrfStandard
  | block
  deriving DecidableEq, Repr

namespace FieldGroup

/-- The fields of a group, in encoding order. -/
def names : FieldGroup → List String
  | txn =>
    ["Sender", "Fee", "FirstValid", "FirstValidTime", "LastValid", "Note",
     "Lease", "Receiver", "Amount", "CloseRemainderTo", "VotePK",
     "SelectionPK", "VoteFirst", "VoteLast", "VoteKeyDilution", "Type",
     "TypeEnum", "XferAsset", "AssetAmount", "AssetSender", "AssetReceiver",
     "AssetCloseTo", "GroupIndex", "TxID", "ApplicationID", "OnCompletion",
     "ApplicationArgs", "NumAppArgs", "Accounts", "NumAccounts",
     "ApprovalProgram", "ClearStateProgram", "RekeyTo", "ConfigAsset",
     "ConfigAssetTotal", "ConfigAssetDecimals", "ConfigAssetDefaultFrozen",
     "ConfigAssetUnitName", "ConfigAssetName", "ConfigAssetURL",
     "ConfigAssetMetadataHash", "ConfigAssetManager", "ConfigAssetReserve",
     "ConfigAssetFreeze", "ConfigAssetClawback", "FreezeAsset",
     "FreezeAssetAccount", "FreezeAssetFrozen", "Assets", "NumAssets",
     "Applications", "NumApplications", "GlobalNumUint", "GlobalNumByteSlice",
     "LocalNumUint", "LocalNumByteSlice", "ExtraProgramPages",
     "Nonparticipation", "Logs", "NumLogs", "CreatedAssetID",
     "CreatedApplicationID", "LastLog", "StateProofPK",
     "ApprovalProgramPages", "NumApprovalProgramPages",
     "ClearStateProgramPages", "NumClearStateProgramPages"]
  | global =>
    ["MinTxnFee", "MinBalance", "MaxTxnLife", "ZeroAddress", "GroupSize",
     "LogicSigVersion", "Round", "LatestTimestamp", "CurrentApplicationID",
     "CreatorAddress", "CurrentApplicationAddress", "GroupID", "OpcodeBudget",
     "CallerApplicationID", "CallerApplicationAddress",
     "AssetCreateMinBalance", "AssetOptInMinBalance", "GenesisHash"]
  | assetHolding =>
    ["AssetBalance", "AssetFrozen"]
  | assetParams =>
    ["AssetTotal", "AssetDecimals", "AssetDefaultFrozen", "AssetUnitName",
     "AssetName", "AssetURL", "AssetMetadataHash", "AssetManager",
     "AssetReserve", "AssetFreeze", "AssetClawback", "AssetCreator"]
  | appParams =>
    ["AppApprovalProgram", "AppClearStateProgram", "AppGlobalNumUint",
     "AppGlobalNumByteSlice", "AppLocalNumUint", "AppLocalNumByteSlice",
     "AppExtraProgramPages", "AppCreator", "AppAddress"]
  | acctParams =>
    ["AcctBalance", "AcctMinBalance", "AcctAuthAddr", "AcctTotalNumUint",
     "AcctTotalNumByteSlice", "AcctTotalExtraAppPages",
     "AcctTotalAppsCreated", "AcctTotalAppsOptedIn", "AcctTotalAssetsCreated",
     "AcctTotalAssets", "AcctTotalBoxes", "AcctTotalBoxBytes"]
  | ecdsaCurve =>
    ["Secp256k1", "Secp256r1"]
  | base64Encoding =>
    ["URLEncoding", "StdEncoding"]
  | jsonRef =>
    ["JSONString", "JSONUint64", "JSONObject"]
  | vrfStandard =>
    ["VrfAlgorand"]
  | block =>
    ["BlkSeed", "BlkTimestamp"]

/-- The encoded value of a field given by its name or by its place. -/
def resolve? (group : FieldGroup) (text : String) : Option UInt8 :=
  match Text.nat? 10 UInt64.size text.toList with
  | some index =>
    if index < group.names.length then some (UInt8.ofNat index) else none
  | none => (group.names.idxOf? text).map UInt8.ofNat

end FieldGroup

end TealTools
