import Admission.Time.Calendar

/-!
# Rules of time zones

The offset from UTC that is in force in the zones of the time zone database, and when daylight
saving time begins and ends there.
-/

namespace Admission.Time

/-- A day of the year by its place among the days of one name in a month, and a time of that day in
seconds. -/
structure Change where
  month : Nat
  /-- The first, second, … day of that name; the fifth one is the last. -/
  week : Nat
  /-- Counted from Sunday. -/
  weekday : Nat
  clock : Int
  deriving DecidableEq, Repr

/-- Daylight saving time: its offset in seconds, and the days on which it begins and ends. -/
structure Daylight where
  offset : Int
  begins : Change
  ends : Change
  deriving DecidableEq, Repr

/-- The rule of a zone: its offset in seconds, and its daylight saving time. -/
structure ZoneRule where
  offset : Int
  daylight : Option Daylight := none
  deriving DecidableEq, Repr

/-- The rules with the names of the zones that follow them. -/
def ZoneRule.table : List (ZoneRule × List String) :=
  [
    (⟨-43200, none⟩,
      ["Etc/GMT+12"]),
    (⟨-39600, none⟩,
      ["Etc/GMT+11", "Pacific/Midway", "Pacific/Niue", "Pacific/Pago_Pago", "Pacific/Samoa",
        "US/Samoa"]),
    (⟨-36000, none⟩,
      ["Etc/GMT+10", "HST", "Pacific/Honolulu", "Pacific/Johnston", "Pacific/Rarotonga",
        "Pacific/Tahiti", "US/Hawaii"]),
    (⟨-36000, some ⟨-32400, ⟨3, 2, 0, 7200⟩, ⟨11, 1, 0, 7200⟩⟩⟩,
      ["America/Adak", "America/Atka", "US/Aleutian"]),
    (⟨-34200, none⟩,
      ["Pacific/Marquesas"]),
    (⟨-32400, none⟩,
      ["Etc/GMT+9", "Pacific/Gambier"]),
    (⟨-32400, some ⟨-28800, ⟨3, 2, 0, 7200⟩, ⟨11, 1, 0, 7200⟩⟩⟩,
      ["America/Anchorage", "America/Juneau", "America/Metlakatla", "America/Nome",
        "America/Sitka", "America/Yakutat", "US/Alaska"]),
    (⟨-28800, none⟩,
      ["Etc/GMT+8", "Pacific/Pitcairn"]),
    (⟨-28800, some ⟨-25200, ⟨3, 2, 0, 7200⟩, ⟨11, 1, 0, 7200⟩⟩⟩,
      ["America/Ensenada", "America/Los_Angeles", "America/Santa_Isabel", "America/Tijuana",
        "America/Vancouver", "Canada/Pacific", "PST8PDT", "US/Pacific"]),
    (⟨-25200, none⟩,
      ["America/Creston", "America/Dawson", "America/Dawson_Creek", "America/Fort_Nelson",
        "America/Hermosillo", "America/Mazatlan", "America/Phoenix", "America/Whitehorse",
        "Etc/GMT+7", "MST", "US/Arizona"]),
    (⟨-25200, some ⟨-21600, ⟨3, 2, 0, 7200⟩, ⟨11, 1, 0, 7200⟩⟩⟩,
      ["America/Boise", "America/Cambridge_Bay", "America/Ciudad_Juarez", "America/Denver",
        "America/Edmonton", "America/Inuvik", "America/Shiprock", "America/Yellowknife",
        "Canada/Mountain", "MST7MDT", "US/Mountain"]),
    (⟨-21600, none⟩,
      ["America/Bahia_Banderas", "America/Belize", "America/Chihuahua",
        "America/Costa_Rica", "America/El_Salvador", "America/Guatemala", "America/Managua",
        "America/Merida", "America/Mexico_City", "America/Monterrey", "America/Regina",
        "America/Swift_Current", "America/Tegucigalpa", "Etc/GMT+6", "Mexico/General",
        "Pacific/Galapagos"]),
    (⟨-21600, some ⟨-18000, ⟨3, 2, 0, 7200⟩, ⟨11, 1, 0, 7200⟩⟩⟩,
      ["America/Chicago", "America/Indiana/Knox", "America/Indiana/Tell_City",
        "America/Matamoros", "America/Menominee", "America/North_Dakota/Beulah",
        "America/North_Dakota/Center", "America/North_Dakota/New_Salem", "America/Ojinaga",
        "America/Rainy_River", "America/Rankin_Inlet", "America/Resolute",
        "America/Winnipeg", "CST6CDT", "Canada/Central", "US/Central", "US/Indiana-Starke"]),
    (⟨-21600, some ⟨-18000, ⟨9, 1, 6, 79200⟩, ⟨4, 1, 6, 79200⟩⟩⟩,
      ["Pacific/Easter"]),
    (⟨-18000, none⟩,
      ["America/Atikokan", "America/Bogota", "America/Cancun", "America/Cayman",
        "America/Coral_Harbour", "America/Eirunepe", "America/Guayaquil", "America/Jamaica",
        "America/Lima", "America/Panama", "America/Porto_Acre", "America/Rio_Branco", "EST",
        "Etc/GMT+5", "Jamaica"]),
    (⟨-18000, some ⟨-14400, ⟨3, 2, 0, 0⟩, ⟨11, 1, 0, 3600⟩⟩⟩,
      ["America/Havana", "Cuba"]),
    (⟨-18000, some ⟨-14400, ⟨3, 2, 0, 7200⟩, ⟨11, 1, 0, 7200⟩⟩⟩,
      ["America/Detroit", "America/Grand_Turk", "America/Indiana/Indianapolis",
        "America/Indiana/Marengo", "America/Indiana/Petersburg", "America/Indiana/Vevay",
        "America/Indiana/Vincennes", "America/Indiana/Winamac", "America/Indianapolis",
        "America/Iqaluit", "America/Kentucky/Louisville", "America/Kentucky/Monticello",
        "America/Louisville", "America/Montreal", "America/Nassau", "America/New_York",
        "America/Nipigon", "America/Pangnirtung", "America/Port-au-Prince",
        "America/Thunder_Bay", "America/Toronto", "Canada/Eastern", "EST5EDT",
        "US/East-Indiana", "US/Eastern", "US/Michigan"]),
    (⟨-14400, none⟩,
      ["America/Anguilla", "America/Antigua", "America/Aruba", "America/Barbados",
        "America/Blanc-Sablon", "America/Boa_Vista", "America/Campo_Grande",
        "America/Caracas", "America/Cuiaba", "America/Curacao", "America/Dominica",
        "America/Grenada", "America/Guadeloupe", "America/Guyana", "America/Kralendijk",
        "America/La_Paz", "America/Lower_Princes", "America/Manaus", "America/Marigot",
        "America/Martinique", "America/Montserrat", "America/Port_of_Spain",
        "America/Porto_Velho", "America/Puerto_Rico", "America/Santo_Domingo",
        "America/St_Barthelemy", "America/St_Kitts", "America/St_Lucia",
        "America/St_Thomas", "America/St_Vincent", "America/Tortola", "America/Virgin",
        "Etc/GMT+4"]),
    (⟨-14400, some ⟨-10800, ⟨3, 2, 0, 7200⟩, ⟨11, 1, 0, 7200⟩⟩⟩,
      ["America/Glace_Bay", "America/Goose_Bay", "America/Halifax", "America/Moncton",
        "America/Thule", "Atlantic/Bermuda", "Canada/Atlantic"]),
    (⟨-14400, some ⟨-10800, ⟨9, 1, 6, 86400⟩, ⟨4, 1, 6, 86400⟩⟩⟩,
      ["America/Santiago"]),
    (⟨-12600, some ⟨-9000, ⟨3, 2, 0, 7200⟩, ⟨11, 1, 0, 7200⟩⟩⟩,
      ["America/St_Johns", "Canada/Newfoundland"]),
    (⟨-10800, none⟩,
      ["America/Araguaina", "America/Argentina/Buenos_Aires", "America/Argentina/Catamarca",
        "America/Argentina/Cordoba", "America/Argentina/Jujuy",
        "America/Argentina/La_Rioja", "America/Argentina/Mendoza",
        "America/Argentina/Rio_Gallegos", "America/Argentina/Salta",
        "America/Argentina/San_Juan", "America/Argentina/San_Luis",
        "America/Argentina/Tucuman", "America/Argentina/Ushuaia", "America/Asuncion",
        "America/Bahia", "America/Belem", "America/Buenos_Aires", "America/Cayenne",
        "America/Coyhaique", "America/Fortaleza", "America/Maceio", "America/Montevideo",
        "America/Paramaribo", "America/Punta_Arenas", "America/Recife", "America/Santarem",
        "America/Sao_Paulo", "Antarctica/Palmer", "Antarctica/Rothera", "Atlantic/Stanley",
        "Brazil/East", "Etc/GMT+3"]),
    (⟨-10800, some ⟨-7200, ⟨3, 2, 0, 7200⟩, ⟨11, 1, 0, 7200⟩⟩⟩,
      ["America/Miquelon"]),
    (⟨-7200, none⟩,
      ["America/Noronha", "Atlantic/South_Georgia", "Etc/GMT+2"]),
    (⟨-7200, some ⟨-3600, ⟨3, 5, 0, -3600⟩, ⟨10, 5, 0, 0⟩⟩⟩,
      ["America/Nuuk", "America/Scoresbysund"]),
    (⟨-3600, none⟩,
      ["Atlantic/Cape_Verde", "Etc/GMT+1"]),
    (⟨-3600, some ⟨0, ⟨3, 5, 0, 0⟩, ⟨10, 5, 0, 3600⟩⟩⟩,
      ["Atlantic/Azores"]),
    (⟨0, none⟩,
      ["Africa/Abidjan", "Africa/Accra", "Africa/Bamako", "Africa/Banjul", "Africa/Bissau",
        "Africa/Conakry", "Africa/Dakar", "Africa/Freetown", "Africa/Lome",
        "Africa/Monrovia", "Africa/Nouakchott", "Africa/Ouagadougou", "Africa/Sao_Tome",
        "Africa/Timbuktu", "America/Danmarkshavn", "Atlantic/Reykjavik",
        "Atlantic/St_Helena", "Etc/GMT", "Etc/GMT+0", "Etc/GMT-0", "Etc/GMT0",
        "Etc/Greenwich", "Etc/UCT", "Etc/UTC", "Etc/Universal", "Etc/Zulu", "Factory",
        "GMT", "GMT+0", "GMT-0", "GMT0", "Greenwich", "Iceland", "UCT", "UTC", "Universal",
        "Zulu", "localtime"]),
    (⟨0, some ⟨3600, ⟨3, 5, 0, 3600⟩, ⟨10, 5, 0, 7200⟩⟩⟩,
      ["Atlantic/Canary", "Atlantic/Faroe", "Atlantic/Madeira", "Eire", "Europe/Belfast",
        "Europe/Dublin", "Europe/Guernsey", "Europe/Isle_of_Man", "Europe/Jersey",
        "Europe/Lisbon", "Europe/London", "GB", "Portugal", "WET"]),
    (⟨0, some ⟨7200, ⟨3, 5, 0, 3600⟩, ⟨10, 5, 0, 10800⟩⟩⟩,
      ["Antarctica/Troll"]),
    (⟨3600, none⟩,
      ["Africa/Algiers", "Africa/Bangui", "Africa/Brazzaville", "Africa/Casablanca",
        "Africa/Douala", "Africa/El_Aaiun", "Africa/Kinshasa", "Africa/Lagos",
        "Africa/Libreville", "Africa/Luanda", "Africa/Malabo", "Africa/Ndjamena",
        "Africa/Niamey", "Africa/Porto-Novo", "Africa/Tunis", "Etc/GMT-1"]),
    (⟨3600, some ⟨7200, ⟨3, 5, 0, 7200⟩, ⟨10, 5, 0, 10800⟩⟩⟩,
      ["Africa/Ceuta", "Arctic/Longyearbyen", "Atlantic/Jan_Mayen", "CET",
        "Europe/Amsterdam", "Europe/Andorra", "Europe/Belgrade", "Europe/Berlin",
        "Europe/Bratislava", "Europe/Brussels", "Europe/Budapest", "Europe/Busingen",
        "Europe/Copenhagen", "Europe/Gibraltar", "Europe/Ljubljana", "Europe/Luxembourg",
        "Europe/Madrid", "Europe/Malta", "Europe/Monaco", "Europe/Oslo", "Europe/Paris",
        "Europe/Podgorica", "Europe/Prague", "Europe/Rome", "Europe/San_Marino",
        "Europe/Sarajevo", "Europe/Skopje", "Europe/Stockholm", "Europe/Tirane",
        "Europe/Vaduz", "Europe/Vatican", "Europe/Vienna", "Europe/Warsaw", "Europe/Zagreb",
        "Europe/Zurich", "MET", "Poland"]),
    (⟨7200, none⟩,
      ["Africa/Blantyre", "Africa/Bujumbura", "Africa/Gaborone", "Africa/Harare",
        "Africa/Johannesburg", "Africa/Juba", "Africa/Khartoum", "Africa/Kigali",
        "Africa/Lubumbashi", "Africa/Lusaka", "Africa/Maputo", "Africa/Maseru",
        "Africa/Mbabane", "Africa/Tripoli", "Africa/Windhoek", "Etc/GMT-2",
        "Europe/Kaliningrad"]),
    (⟨7200, some ⟨10800, ⟨3, 4, 4, 93600⟩, ⟨10, 5, 0, 7200⟩⟩⟩,
      ["Asia/Jerusalem", "Asia/Tel_Aviv", "Israel"]),
    (⟨7200, some ⟨10800, ⟨3, 4, 4, 180000⟩, ⟨10, 4, 4, 180000⟩⟩⟩,
      ["Asia/Gaza", "Asia/Hebron"]),
    (⟨7200, some ⟨10800, ⟨3, 5, 0, 0⟩, ⟨10, 5, 0, 0⟩⟩⟩,
      ["Asia/Beirut"]),
    (⟨7200, some ⟨10800, ⟨3, 5, 0, 10800⟩, ⟨10, 5, 0, 14400⟩⟩⟩,
      ["Asia/Famagusta", "Asia/Nicosia", "EET", "Europe/Athens", "Europe/Bucharest",
        "Europe/Chisinau", "Europe/Helsinki", "Europe/Kiev", "Europe/Kyiv",
        "Europe/Mariehamn", "Europe/Nicosia", "Europe/Riga", "Europe/Sofia",
        "Europe/Tallinn", "Europe/Tiraspol", "Europe/Vilnius"]),
    (⟨7200, some ⟨10800, ⟨4, 5, 5, 0⟩, ⟨10, 5, 4, 86400⟩⟩⟩,
      ["Africa/Cairo", "Egypt"]),
    (⟨10800, none⟩,
      ["Africa/Addis_Ababa", "Africa/Asmara", "Africa/Dar_es_Salaam", "Africa/Djibouti",
        "Africa/Kampala", "Africa/Mogadishu", "Africa/Nairobi", "Antarctica/Syowa",
        "Asia/Aden", "Asia/Amman", "Asia/Baghdad", "Asia/Bahrain", "Asia/Damascus",
        "Asia/Istanbul", "Asia/Kuwait", "Asia/Qatar", "Asia/Riyadh", "Etc/GMT-3",
        "Europe/Istanbul", "Europe/Kirov", "Europe/Minsk", "Europe/Moscow",
        "Europe/Simferopol", "Europe/Volgograd", "Indian/Antananarivo", "Indian/Comoro",
        "Indian/Mayotte", "Turkey", "W-SU"]),
    (⟨12600, none⟩,
      ["Asia/Tehran", "Iran"]),
    (⟨14400, none⟩,
      ["Asia/Baku", "Asia/Dubai", "Asia/Muscat", "Asia/Tbilisi", "Asia/Yerevan",
        "Etc/GMT-4", "Europe/Astrakhan", "Europe/Samara", "Europe/Saratov",
        "Europe/Ulyanovsk", "Indian/Mahe", "Indian/Mauritius", "Indian/Reunion"]),
    (⟨16200, none⟩,
      ["Asia/Kabul"]),
    (⟨18000, none⟩,
      ["Antarctica/Mawson", "Antarctica/Vostok", "Asia/Almaty", "Asia/Aqtau", "Asia/Aqtobe",
        "Asia/Ashgabat", "Asia/Atyrau", "Asia/Dushanbe", "Asia/Karachi", "Asia/Oral",
        "Asia/Qostanay", "Asia/Qyzylorda", "Asia/Samarkand", "Asia/Tashkent",
        "Asia/Yekaterinburg", "Etc/GMT-5", "Indian/Kerguelen", "Indian/Maldives"]),
    (⟨19800, none⟩,
      ["Asia/Calcutta", "Asia/Colombo", "Asia/Kolkata"]),
    (⟨20700, none⟩,
      ["Asia/Kathmandu", "Asia/Katmandu"]),
    (⟨21600, none⟩,
      ["Asia/Bishkek", "Asia/Dacca", "Asia/Dhaka", "Asia/Kashgar", "Asia/Omsk",
        "Asia/Thimphu", "Asia/Urumqi", "Etc/GMT-6", "Indian/Chagos"]),
    (⟨23400, none⟩,
      ["Asia/Rangoon", "Asia/Yangon", "Indian/Cocos"]),
    (⟨25200, none⟩,
      ["Antarctica/Davis", "Asia/Bangkok", "Asia/Barnaul", "Asia/Ho_Chi_Minh", "Asia/Hovd",
        "Asia/Jakarta", "Asia/Krasnoyarsk", "Asia/Novokuznetsk", "Asia/Novosibirsk",
        "Asia/Phnom_Penh", "Asia/Pontianak", "Asia/Saigon", "Asia/Tomsk", "Asia/Vientiane",
        "Etc/GMT-7", "Indian/Christmas"]),
    (⟨28800, none⟩,
      ["Antarctica/Casey", "Asia/Brunei", "Asia/Choibalsan", "Asia/Chongqing",
        "Asia/Harbin", "Asia/Hong_Kong", "Asia/Irkutsk", "Asia/Kuala_Lumpur",
        "Asia/Kuching", "Asia/Macau", "Asia/Makassar", "Asia/Manila", "Asia/Shanghai",
        "Asia/Singapore", "Asia/Taipei", "Asia/Ulaanbaatar", "Australia/Perth",
        "Australia/West", "Etc/GMT-8", "Hongkong", "PRC", "ROC", "Singapore"]),
    (⟨31500, none⟩,
      ["Australia/Eucla"]),
    (⟨32400, none⟩,
      ["Asia/Chita", "Asia/Dili", "Asia/Jayapura", "Asia/Khandyga", "Asia/Pyongyang",
        "Asia/Seoul", "Asia/Tokyo", "Asia/Yakutsk", "Etc/GMT-9", "Japan", "Pacific/Palau",
        "ROK"]),
    (⟨34200, none⟩,
      ["Australia/Darwin", "Australia/North"]),
    (⟨34200, some ⟨37800, ⟨10, 1, 0, 7200⟩, ⟨4, 1, 0, 10800⟩⟩⟩,
      ["Australia/Adelaide", "Australia/Broken_Hill", "Australia/South",
        "Australia/Yancowinna"]),
    (⟨36000, none⟩,
      ["Antarctica/DumontDUrville", "Asia/Ust-Nera", "Asia/Vladivostok",
        "Australia/Brisbane", "Australia/Lindeman", "Australia/Queensland", "Etc/GMT-10",
        "Pacific/Chuuk", "Pacific/Guam", "Pacific/Port_Moresby", "Pacific/Saipan",
        "Pacific/Yap"]),
    (⟨36000, some ⟨39600, ⟨10, 1, 0, 7200⟩, ⟨4, 1, 0, 10800⟩⟩⟩,
      ["Antarctica/Macquarie", "Australia/ACT", "Australia/Canberra", "Australia/Currie",
        "Australia/Hobart", "Australia/Melbourne", "Australia/NSW", "Australia/Sydney",
        "Australia/Tasmania", "Australia/Victoria"]),
    (⟨37800, some ⟨39600, ⟨10, 1, 0, 7200⟩, ⟨4, 1, 0, 7200⟩⟩⟩,
      ["Australia/Lord_Howe"]),
    (⟨39600, none⟩,
      ["Asia/Magadan", "Asia/Sakhalin", "Asia/Srednekolymsk", "Etc/GMT-11",
        "Pacific/Bougainville", "Pacific/Efate", "Pacific/Guadalcanal", "Pacific/Kosrae",
        "Pacific/Noumea", "Pacific/Pohnpei"]),
    (⟨39600, some ⟨43200, ⟨10, 1, 0, 7200⟩, ⟨4, 1, 0, 10800⟩⟩⟩,
      ["Pacific/Norfolk"]),
    (⟨43200, none⟩,
      ["Asia/Anadyr", "Asia/Kamchatka", "Etc/GMT-12", "Pacific/Fiji", "Pacific/Funafuti",
        "Pacific/Kwajalein", "Pacific/Majuro", "Pacific/Nauru", "Pacific/Tarawa",
        "Pacific/Wake", "Pacific/Wallis"]),
    (⟨43200, some ⟨46800, ⟨9, 5, 0, 7200⟩, ⟨4, 1, 0, 10800⟩⟩⟩,
      ["Antarctica/McMurdo", "NZ", "Pacific/Auckland"]),
    (⟨45900, some ⟨49500, ⟨9, 5, 0, 9900⟩, ⟨4, 1, 0, 13500⟩⟩⟩,
      ["Pacific/Chatham"]),
    (⟨46800, none⟩,
      ["Etc/GMT-13", "Pacific/Apia", "Pacific/Fakaofo", "Pacific/Kanton",
        "Pacific/Tongatapu"]),
    (⟨50400, none⟩,
      ["Etc/GMT-14", "Pacific/Kiritimati"])
  ]

end Admission.Time
