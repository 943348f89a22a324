import RecomputerGateway.UciStore
import RecomputerGateway.WlanFile

namespace RecomputerGateway.Wlan

/-!
# The wireless configuration

`initialize_default_ap` and what `apply_wifi_config` does with the settings it
has read: the edits of `/etc/config/wireless`, their commit and the reload of
the radios.
-/

open UciStore (Edit Package Store)

inductive SectionName where
  | radio0
  | defaultRadio0
  | wifinet0
  | other (name : List Char)
  deriving DecidableEq

inductive OptionName where
  | disabled
  | band
  | channel
  | htmode
  | country
  | device
  | network
  | mode
  | ifname
  | ssid
  | encryption
  | key
  | other (name : List Char)
  deriving DecidableEq

abbrev WirelessPackage := Package SectionName OptionName

abbrev WirelessEdit := Edit SectionName OptionName

/-- The configuration, and the one that the radios run with. -/
structure Wireless where
  config : Store SectionName OptionName
  running : WirelessPackage

namespace Wireless

/-- `uci set` and `uci delete`. -/
def edit (edits : List WirelessEdit) (wireless : Wireless) : Wireless :=
  { wireless with config := wireless.config.edit edits }

/-- `uci commit wireless`. -/
def commit (wireless : Wireless) : Wireless :=
  { wireless with config := wireless.config.commit }

/-- `wifi reload`. -/
def reload (wireless : Wireless) : Wireless :=
  { wireless with running := wireless.config.committed }

end Wireless

/-! ## The edits -/

/-- Encryption with a password. -/
def encrypted (password : List Char) : List WirelessEdit :=
  [ .set .defaultRadio0 .encryption "psk2".toList,
    .set .defaultRadio0 .key password ]

/-- No encryption. -/
def unencrypted : List WirelessEdit :=
  [.set .defaultRadio0 .encryption "none".toList]

/-- The edits for an access point. -/
def accessPointEdits
    (ssid : List Char)
    (security : List WirelessEdit) :
    List WirelessEdit :=
  [ .set .radio0 .disabled "0".toList,
    .set .radio0 .band "2g".toList,
    .set .radio0 .channel "6".toList,
    .delete .radio0 .htmode,
    .deleteSection .defaultRadio0,
    .deleteSection .wifinet0,
    .setSection .defaultRadio0 "wifi-iface".toList,
    .set .defaultRadio0 .device "radio0".toList,
    .set .defaultRadio0 .network "wan".toList,
    .set .defaultRadio0 .mode "ap".toList,
    .set .defaultRadio0 .ifname "wlan0".toList,
    .set .defaultRadio0 .ssid ssid ] ++ security

/-- The edits for a station. -/
def stationEdits
    (ssid : List Char)
    (security : List WirelessEdit) :
    List WirelessEdit :=
  [ .set .radio0 .disabled "0".toList,
    .set .radio0 .band "2g".toList,
    .set .radio0 .htmode "HT20".toList,
    .set .radio0 .channel "auto".toList,
    .set .radio0 .country "CN".toList,
    .deleteSection .defaultRadio0,
    .deleteSection .wifinet0,
    .setSection .defaultRadio0 "wifi-iface".toList,
    .set .defaultRadio0 .device "radio0".toList,
    .set .defaultRadio0 .network "wlan".toList,
    .set .defaultRadio0 .mode "sta".toList,
    .set .defaultRadio0 .ifname "wlan0".toList,
    .set .defaultRadio0 .ssid ssid ] ++ security

/-! ## The functions of the script -/

/-- The name of the default access point, from the content of the SN file. -/
def defaultSsid (serial : List Char) : List Char :=
  let sn := serial.filter fun char => !ShellRead.isSpace char
  if 4 ≤ sn.length then "R1225-".toList ++ sn.drop (sn.length - 4)
  else "R1225-0000".toList

/-- The SN file is created when it does not exist. -/
def initializeDefaultAp
    (serial : Option (List Char))
    (wireless : Wireless) :
    Wireless :=
  let ssid := defaultSsid (serial.getD "seeed0000\n".toList)
  (wireless.edit
    (accessPointEdits ssid (encrypted "1234567890".toList))).commit.reload

def Settings.IsAccessPoint (settings : Settings) : Prop :=
  settings.mode = "ap".toList ∨ settings.mode = "AP".toList

instance (settings : Settings) : Decidable settings.IsAccessPoint :=
  inferInstanceAs (Decidable (_ ∨ _))

def Settings.IsStation (settings : Settings) : Prop :=
  settings.mode = "sta".toList ∨ settings.mode = "STA".toList

instance (settings : Settings) : Decidable settings.IsStation :=
  inferInstanceAs (Decidable (_ ∨ _))

/-- The edits for the access point that the settings ask for. -/
def Settings.apEdits (settings : Settings) : List WirelessEdit :=
  accessPointEdits settings.apSsid <|
    if settings.apPassword ≠ [] ∧ 8 ≤ settings.apPassword.length then
      encrypted settings.apPassword
    else unencrypted

/-- The edits for the station that the settings ask for. -/
def Settings.staEdits (settings : Settings) : List WirelessEdit :=
  stationEdits settings.staSsid <|
    if settings.staPassword ≠ [] then encrypted settings.staPassword
    else unencrypted

/-- `apply_wifi_config`, behind its loop; the status is that it returns. -/
def applySettings
    (settings : Settings)
    (wireless : Wireless) :
    Except String Unit × Wireless :=
  if settings.mode = [] then
    (.error "ERROR: MODE not specified in WLAN.txt", wireless)
  else if settings.IsAccessPoint then
    if settings.apSsid = [] then
      (.error "ERROR: AP_SSID not specified for AP mode", wireless)
    else (.ok (), (wireless.edit settings.apEdits).commit.reload)
  else if settings.IsStation then
    if settings.staSsid = [] then
      (.error "ERROR: STA_SSID not specified for STA mode", wireless)
    else (.ok (), (wireless.edit settings.staEdits).commit.reload)
  else
    let mode := String.ofList settings.mode
    (.error s!"ERROR: Invalid MODE: {mode} (must be 'ap' or 'sta')",
      wireless)

/-- `apply_wifi_config`, for the text of the file. -/
def applyWifiConfig
    (text : List Char)
    (wireless : Wireless) :
    Except String Unit × Wireless :=
  applySettings (parse text) wireless

/-! ## Settings that are applied -/

/-- A mode is chosen and has a name for its network. -/
def Settings.Valid (settings : Settings) : Prop :=
  settings.IsAccessPoint ∧ settings.apSsid ≠ [] ∨
    settings.IsStation ∧ settings.staSsid ≠ []

instance (settings : Settings) : Decidable settings.Valid :=
  inferInstanceAs (Decidable (_ ∨ _))

/-- The edits that the settings ask for. -/
def Settings.edits (settings : Settings) : List WirelessEdit :=
  if settings.IsAccessPoint then settings.apEdits else settings.staEdits

theorem Settings.IsAccessPoint.not_isStation
    {settings : Settings}
    (isAccessPoint : settings.IsAccessPoint) :
    ¬ settings.IsStation := by
  unfold IsAccessPoint at isAccessPoint
  unfold IsStation
  rcases isAccessPoint with mode | mode <;> rw [mode] <;> decide

theorem Settings.mode_ne_nil
    {settings : Settings}
    (chosen : settings.IsAccessPoint ∨ settings.IsStation) :
    settings.mode ≠ [] := by
  unfold IsAccessPoint IsStation at chosen
  rcases chosen with (mode | mode) | (mode | mode) <;> rw [mode] <;> decide

/-- Valid settings are staged, committed and loaded. -/
theorem applySettings_of_valid
    {settings : Settings}
    (valid : settings.Valid)
    (wireless : Wireless) :
    applySettings settings wireless =
      (.ok (), (wireless.edit settings.edits).commit.reload) := by
  rcases valid with ⟨isAccessPoint, named⟩ | ⟨isStation, named⟩
  · rw [applySettings, if_neg (Settings.mode_ne_nil (.inl isAccessPoint)),
      if_pos isAccessPoint, if_neg named, Settings.edits,
      if_pos isAccessPoint]
  · have notAccessPoint : ¬ settings.IsAccessPoint :=
      fun isAccessPoint => isAccessPoint.not_isStation isStation
    rw [applySettings, if_neg (Settings.mode_ne_nil (.inr isStation)),
      if_neg notAccessPoint, if_pos isStation, if_neg named,
      Settings.edits, if_neg notAccessPoint]

/-- Other settings are rejected before the first edit. -/
theorem applySettings_of_not_valid
    {settings : Settings}
    (invalid : ¬ settings.Valid)
    (wireless : Wireless) :
    ∃ message,
      applySettings settings wireless = (.error message, wireless) := by
  unfold Settings.Valid at invalid
  unfold applySettings
  split_ifs with noMode isAccessPoint unnamed isStation unnamed
  · exact ⟨_, rfl⟩
  · exact ⟨_, rfl⟩
  · exact absurd (.inl ⟨isAccessPoint, unnamed⟩) invalid
  · exact ⟨_, rfl⟩
  · exact absurd (.inr ⟨isStation, unnamed⟩) invalid
  · exact ⟨_, rfl⟩

end RecomputerGateway.Wlan
