/-!
# The time zone database

The zones a schedule may name are looked up the way the host's zone database is laid out: a
directory of zone files, some of them in subdirectories, next to a few data files that hold no
zone. A name is a path in that tree. Names the host does not have are then looked up among the
older names that the runtime's own copy of the database still carries.

* `Zones.files` are the zone files, by path;
* `Zones.dataFiles` are the files that are not zone files;
* `Zones.directories` are the subdirectories;
* `Zones.older` are the names only the runtime's copy has.
-/

namespace Auction

namespace Zones

/-- The zone files of the host's database, by path. -/
def files : List String :=
  (
  "Africa/Abidjan Africa/Accra Africa/Addis_Ababa Africa/Algiers Africa/Asmara Africa/Bamako " ++
    "Africa/Bangui Africa/Banjul Africa/Bissau Africa/Blantyre Africa/Brazzaville " ++
    "Africa/Bujumbura Africa/Cairo Africa/Casablanca Africa/Ceuta Africa/Conakry Africa/Dakar " ++
    "Africa/Dar_es_Salaam Africa/Djibouti Africa/Douala Africa/El_Aaiun Africa/Freetown " ++
    "Africa/Gaborone Africa/Harare Africa/Johannesburg Africa/Juba Africa/Kampala " ++
    "Africa/Khartoum Africa/Kigali Africa/Kinshasa Africa/Lagos Africa/Libreville Africa/Lome " ++
    "Africa/Luanda Africa/Lubumbashi Africa/Lusaka Africa/Malabo Africa/Maputo Africa/Maseru " ++
    "Africa/Mbabane Africa/Mogadishu Africa/Monrovia Africa/Nairobi Africa/Ndjamena " ++
    "Africa/Niamey Africa/Nouakchott Africa/Ouagadougou Africa/Porto-Novo Africa/Sao_Tome " ++
    "Africa/Timbuktu Africa/Tripoli Africa/Tunis Africa/Windhoek America/Adak America/Anchorage " ++
    "America/Anguilla America/Antigua America/Araguaina America/Argentina/Buenos_Aires " ++
    "America/Argentina/Catamarca America/Argentina/Cordoba America/Argentina/Jujuy " ++
    "America/Argentina/La_Rioja America/Argentina/Mendoza America/Argentina/Rio_Gallegos " ++
    "America/Argentina/Salta America/Argentina/San_Juan America/Argentina/San_Luis " ++
    "America/Argentina/Tucuman America/Argentina/Ushuaia America/Aruba America/Asuncion " ++
    "America/Atikokan America/Atka America/Bahia America/Bahia_Banderas America/Barbados " ++
    "America/Belem America/Belize America/Blanc-Sablon America/Boa_Vista America/Bogota " ++
    "America/Boise America/Cambridge_Bay America/Campo_Grande America/Cancun America/Caracas " ++
    "America/Cayenne America/Cayman America/Chicago America/Chihuahua America/Ciudad_Juarez " ++
    "America/Coral_Harbour America/Costa_Rica America/Coyhaique America/Creston America/Cuiaba " ++
    "America/Curacao America/Danmarkshavn America/Dawson America/Dawson_Creek America/Denver " ++
    "America/Detroit America/Dominica America/Edmonton America/Eirunepe America/El_Salvador " ++
    "America/Ensenada America/Fort_Nelson America/Fortaleza America/Glace_Bay America/Goose_Bay " ++
    "America/Grand_Turk America/Grenada America/Guadeloupe America/Guatemala America/Guayaquil " ++
    "America/Guyana America/Halifax America/Havana America/Hermosillo " ++
    "America/Indiana/Indianapolis America/Indiana/Knox America/Indiana/Marengo " ++
    "America/Indiana/Petersburg America/Indiana/Tell_City America/Indiana/Vevay " ++
    "America/Indiana/Vincennes America/Indiana/Winamac America/Inuvik America/Iqaluit " ++
    "America/Jamaica America/Juneau America/Kentucky/Louisville America/Kentucky/Monticello " ++
    "America/Kralendijk America/La_Paz America/Lima America/Los_Angeles America/Lower_Princes " ++
    "America/Maceio America/Managua America/Manaus America/Marigot America/Martinique " ++
    "America/Matamoros America/Mazatlan America/Menominee America/Merida America/Metlakatla " ++
    "America/Mexico_City America/Miquelon America/Moncton America/Monterrey America/Montevideo " ++
    "America/Montreal America/Montserrat America/Nassau America/New_York America/Nipigon " ++
    "America/Nome America/Noronha America/North_Dakota/Beulah America/North_Dakota/Center " ++
    "America/North_Dakota/New_Salem America/Nuuk America/Ojinaga America/Panama " ++
    "America/Pangnirtung America/Paramaribo America/Phoenix America/Port-au-Prince " ++
    "America/Port_of_Spain America/Porto_Acre America/Porto_Velho America/Puerto_Rico " ++
    "America/Punta_Arenas America/Rainy_River America/Rankin_Inlet America/Recife " ++
    "America/Regina America/Resolute America/Rio_Branco America/Santa_Isabel America/Santarem " ++
    "America/Santiago America/Santo_Domingo America/Sao_Paulo America/Scoresbysund " ++
    "America/Shiprock America/Sitka America/St_Barthelemy America/St_Johns America/St_Kitts " ++
    "America/St_Lucia America/St_Thomas America/St_Vincent America/Swift_Current " ++
    "America/Tegucigalpa America/Thule America/Thunder_Bay America/Tijuana America/Toronto " ++
    "America/Tortola America/Vancouver America/Virgin America/Whitehorse America/Winnipeg " ++
    "America/Yakutat America/Yellowknife Antarctica/Casey Antarctica/Davis " ++
    "Antarctica/DumontDUrville Antarctica/Macquarie Antarctica/Mawson Antarctica/McMurdo " ++
    "Antarctica/Palmer Antarctica/Rothera Antarctica/Syowa Antarctica/Troll Antarctica/Vostok " ++
    "Arctic/Longyearbyen Asia/Aden Asia/Almaty Asia/Amman Asia/Anadyr Asia/Aqtau Asia/Aqtobe " ++
    "Asia/Ashgabat Asia/Atyrau Asia/Baghdad Asia/Bahrain Asia/Baku Asia/Bangkok Asia/Barnaul " ++
    "Asia/Beirut Asia/Bishkek Asia/Brunei Asia/Chita Asia/Choibalsan Asia/Chongqing " ++
    "Asia/Colombo Asia/Damascus Asia/Dhaka Asia/Dili Asia/Dubai Asia/Dushanbe Asia/Famagusta " ++
    "Asia/Gaza Asia/Harbin Asia/Hebron Asia/Ho_Chi_Minh Asia/Hong_Kong Asia/Hovd Asia/Irkutsk " ++
    "Asia/Istanbul Asia/Jakarta Asia/Jayapura Asia/Jerusalem Asia/Kabul Asia/Kamchatka " ++
    "Asia/Karachi Asia/Kashgar Asia/Kathmandu Asia/Khandyga Asia/Kolkata Asia/Krasnoyarsk " ++
    "Asia/Kuala_Lumpur Asia/Kuching Asia/Kuwait Asia/Macau Asia/Magadan Asia/Makassar " ++
    "Asia/Manila Asia/Muscat Asia/Nicosia Asia/Novokuznetsk Asia/Novosibirsk Asia/Omsk " ++
    "Asia/Oral Asia/Phnom_Penh Asia/Pontianak Asia/Pyongyang Asia/Qatar Asia/Qostanay " ++
    "Asia/Qyzylorda Asia/Riyadh Asia/Sakhalin Asia/Samarkand Asia/Seoul Asia/Shanghai " ++
    "Asia/Singapore Asia/Srednekolymsk Asia/Taipei Asia/Tashkent Asia/Tbilisi Asia/Tehran " ++
    "Asia/Tel_Aviv Asia/Thimphu Asia/Tokyo Asia/Tomsk Asia/Ulaanbaatar Asia/Urumqi " ++
    "Asia/Ust-Nera Asia/Vientiane Asia/Vladivostok Asia/Yakutsk Asia/Yangon Asia/Yekaterinburg " ++
    "Asia/Yerevan Atlantic/Azores Atlantic/Bermuda Atlantic/Canary Atlantic/Cape_Verde " ++
    "Atlantic/Faroe Atlantic/Jan_Mayen Atlantic/Madeira Atlantic/Reykjavik " ++
    "Atlantic/South_Georgia Atlantic/St_Helena Atlantic/Stanley Australia/Adelaide " ++
    "Australia/Brisbane Australia/Broken_Hill Australia/Canberra Australia/Currie " ++
    "Australia/Darwin Australia/Eucla Australia/Hobart Australia/Lindeman Australia/Lord_Howe " ++
    "Australia/Melbourne Australia/Perth Australia/Sydney Australia/Yancowinna CET CST6CDT EET " ++
    "EST EST5EDT Etc/GMT Etc/GMT+0 Etc/GMT+1 Etc/GMT+10 Etc/GMT+11 Etc/GMT+12 Etc/GMT+2 " ++
    "Etc/GMT+3 Etc/GMT+4 Etc/GMT+5 Etc/GMT+6 Etc/GMT+7 Etc/GMT+8 Etc/GMT+9 Etc/GMT-0 Etc/GMT-1 " ++
    "Etc/GMT-10 Etc/GMT-11 Etc/GMT-12 Etc/GMT-13 Etc/GMT-14 Etc/GMT-2 Etc/GMT-3 Etc/GMT-4 " ++
    "Etc/GMT-5 Etc/GMT-6 Etc/GMT-7 Etc/GMT-8 Etc/GMT-9 Etc/GMT0 Etc/Greenwich Etc/UCT Etc/UTC " ++
    "Etc/Universal Etc/Zulu Europe/Amsterdam Europe/Andorra Europe/Astrakhan Europe/Athens " ++
    "Europe/Belfast Europe/Belgrade Europe/Berlin Europe/Bratislava Europe/Brussels " ++
    "Europe/Bucharest Europe/Budapest Europe/Busingen Europe/Chisinau Europe/Copenhagen " ++
    "Europe/Dublin Europe/Gibraltar Europe/Guernsey Europe/Helsinki Europe/Isle_of_Man " ++
    "Europe/Istanbul Europe/Jersey Europe/Kaliningrad Europe/Kirov Europe/Kyiv Europe/Lisbon " ++
    "Europe/Ljubljana Europe/London Europe/Luxembourg Europe/Madrid Europe/Malta " ++
    "Europe/Mariehamn Europe/Minsk Europe/Monaco Europe/Moscow Europe/Nicosia Europe/Oslo " ++
    "Europe/Paris Europe/Podgorica Europe/Prague Europe/Riga Europe/Rome Europe/Samara " ++
    "Europe/San_Marino Europe/Sarajevo Europe/Saratov Europe/Simferopol Europe/Skopje " ++
    "Europe/Sofia Europe/Stockholm Europe/Tallinn Europe/Tirane Europe/Tiraspol " ++
    "Europe/Ulyanovsk Europe/Vaduz Europe/Vatican Europe/Vienna Europe/Vilnius Europe/Volgograd " ++
    "Europe/Warsaw Europe/Zagreb Europe/Zurich Factory GMT HST Indian/Antananarivo " ++
    "Indian/Chagos Indian/Christmas Indian/Cocos Indian/Comoro Indian/Kerguelen Indian/Mahe " ++
    "Indian/Maldives Indian/Mauritius Indian/Mayotte Indian/Reunion MET MST MST7MDT PST8PDT " ++
    "Pacific/Apia Pacific/Auckland Pacific/Bougainville Pacific/Chatham Pacific/Chuuk " ++
    "Pacific/Easter Pacific/Efate Pacific/Fakaofo Pacific/Fiji Pacific/Funafuti " ++
    "Pacific/Galapagos Pacific/Gambier Pacific/Guadalcanal Pacific/Guam Pacific/Honolulu " ++
    "Pacific/Johnston Pacific/Kanton Pacific/Kiritimati Pacific/Kosrae Pacific/Kwajalein " ++
    "Pacific/Majuro Pacific/Marquesas Pacific/Midway Pacific/Nauru Pacific/Niue Pacific/Norfolk " ++
    "Pacific/Noumea Pacific/Pago_Pago Pacific/Palau Pacific/Pitcairn Pacific/Pohnpei " ++
    "Pacific/Port_Moresby Pacific/Rarotonga Pacific/Saipan Pacific/Samoa Pacific/Tahiti " ++
    "Pacific/Tarawa Pacific/Tongatapu Pacific/Wake Pacific/Wallis Pacific/Yap UTC WET localtime " ++
    "posixrules").splitOn " "

/-- The files of the host's database that hold no zone. -/
def dataFiles : List String :=
  ["iso3166.tab", "leap-seconds.list", "leapseconds", "tzdata.zi", "zone.tab", "zone1970.tab",
   "zonenow.tab"]

/-- The subdirectories of the host's database. -/
def directories : List String :=
  ["Africa", "America", "America/Argentina", "America/Indiana", "America/Kentucky",
   "America/North_Dakota", "Antarctica", "Arctic", "Asia", "Atlantic", "Australia", "Etc",
   "Europe", "Indian", "Pacific"]

/-- The older names that only the runtime's own copy of the database carries. -/
def older : List String :=
  (
  "Africa/Asmera America/Argentina/ComodRivadavia America/Buenos_Aires America/Catamarca " ++
    "America/Cordoba America/Fort_Wayne America/Godthab America/Indianapolis America/Jujuy " ++
    "America/Knox_IN America/Louisville America/Mendoza America/Rosario Antarctica/South_Pole " ++
    "Asia/Ashkhabad Asia/Calcutta Asia/Chungking Asia/Dacca Asia/Katmandu Asia/Macao " ++
    "Asia/Rangoon Asia/Saigon Asia/Thimbu Asia/Ujung_Pandang Asia/Ulan_Bator Atlantic/Faeroe " ++
    "Australia/ACT Australia/LHI Australia/NSW Australia/North Australia/Queensland " ++
    "Australia/South Australia/Tasmania Australia/Victoria Australia/West Brazil/Acre " ++
    "Brazil/DeNoronha Brazil/East Brazil/West Canada/Atlantic Canada/Central Canada/Eastern " ++
    "Canada/Mountain Canada/Newfoundland Canada/Pacific Canada/Saskatchewan Canada/Yukon " ++
    "Chile/Continental Chile/EasterIsland Cuba Egypt Eire Europe/Kiev Europe/Uzhgorod " ++
    "Europe/Zaporozhye GB GB-Eire GMT+0 GMT-0 GMT0 Greenwich Hongkong Iceland Iran Israel " ++
    "Jamaica Japan Kwajalein Libya Mexico/BajaNorte Mexico/BajaSur Mexico/General NZ NZ-CHAT " ++
    "Navajo PRC Pacific/Enderbury Pacific/Ponape Pacific/Truk Poland Portugal ROC ROK Singapore " ++
    "Turkey UCT US/Alaska US/Aleutian US/Arizona US/Central US/East-Indiana US/Eastern " ++
    "US/Hawaii US/Indiana-Starke US/Michigan US/Mountain US/Pacific US/Samoa Universal W-SU " ++
    "Zulu").splitOn " "

/-- What a path names in the host's database. -/
inductive Entry where
  | zone
  | dataFile
  | directory
  deriving DecidableEq, Repr

/-- The entry at a path, the empty path being the top directory. -/
def entryAt (path : String) : Option Entry :=
  if path.isEmpty || directories.contains path then some .directory
  else if files.contains path then some .zone
  else if dataFiles.contains path then some .dataFile
  else none

/-- What opening a path of components from the directory `dir` finds: an entry, or the
reason it fails. An empty or `.` component stays where it is; any component after a file
fails as "not a directory"; a name the directory lacks is missing (`none`). -/
def walk : List String → String → Except String (Option Entry)
  | [], dir => .ok (entryAt dir)
  | c :: rest, dir =>
    match entryAt dir with
    | some .directory =>
      if c.isEmpty || c = "." then walk rest dir
      else
        let next := if dir.isEmpty then c else dir ++ "/" ++ c
        match entryAt next with
        | none => .ok none
        | some _ => walk rest next
    | some _ => .error "not a directory"
    | none => .ok none

/-- Why a zone name cannot be loaded, if it cannot: `UTC`, `Local` and the empty name always
can; a name with `..` or a leading slash or backslash is invalid; otherwise the name is opened
in the host's database, where a directory cannot be read and a data file holds no zone, and a
name it lacks is looked up among the older names. -/
def problem (name : String) : Option String :=
  if name.isEmpty || name = "UTC" || name = "Local" then none
  else if (name.splitOn "..").length > 1 || name.startsWith "/" || name.startsWith "\\" then
    some "time: invalid location name"
  else
    match walk (name.splitOn "/") "" with
    | .error e => some e
    | .ok (some .zone) => none
    | .ok (some .dataFile) => some "malformed time zone information"
    | .ok (some .directory) => some "is a directory"
    | .ok none => if older.contains name then none else some ("unknown time zone " ++ name)

end Zones

end Auction
