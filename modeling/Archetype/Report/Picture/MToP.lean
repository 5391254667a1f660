/-!
# Names of pictures: m to p

One entry a name, divided by `|`: the name and the code points of the picture in hexadecimal,
divided by blanks. A tilde behind the name stands for the same picture in each tone of skin.
-/

namespace Archetype.Report.Picture

/-- the pictures whose names start with m to p -/
def namesMToP : String :=
  "m 24C2|macau_sar_china 1F1F2 1F1F4|macedonia 1F1F2 1F1F0|madagascar 1F1F2 1F1EC|mag 1F50D|
  mag_right 1F50E|mage~ 1F9D9|magnet 1F9F2|magnifying_glass_tilted_left 1F50D|
  magnifying_glass_tilted_right 1F50E|mahjong 1F004|mahjong_red_dragon 1F004|mailbox 1F4EB|
  mailbox_closed 1F4EA|mailbox_with_mail 1F4EC|mailbox_with_no_mail 1F4ED|malawi 1F1F2 1F1FC|
  malaysia 1F1F2 1F1FE|maldives 1F1F2 1F1FB|male_sign 2642|mali 1F1F2 1F1F1|malta 1F1F2 1F1F9|
  man~ 1F468|man_and_woman_holding_hands 1F46B|man_artist~ 1F468 200D 1F3A8|
  man_astronaut~ 1F468 200D 1F680|man_biking~ 1F6B4 200D 2642 FE0F|
  man_bouncing_ball~ 26F9 FE0F 200D 2642 FE0F|man_bowing~ 1F647 200D 2642 FE0F|
  man_cartwheeling~ 1F938 200D 2642 FE0F|man_climbing~ 1F9D7 200D 2642 FE0F|
  man_construction_worker~ 1F477 200D 2642 FE0F|man_cook~ 1F468 200D 1F373|man_dancing~ 1F57A|
  man_detective~ 1F575 FE0F 200D 2642 FE0F|man_elf~ 1F9DD 200D 2642 FE0F|
  man_facepalming~ 1F926 200D 2642 FE0F|man_factory_worker~ 1F468 200D 1F3ED|
  man_fairy~ 1F9DA 200D 2642 FE0F|man_farmer~ 1F468 200D 1F33E|man_firefighter~ 1F468 200D 1F692|
  man_frowning~ 1F64D 200D 2642 FE0F|man_genie 1F9DE 200D 2642 FE0F|
  man_gesturing_no~ 1F645 200D 2642 FE0F|man_gesturing_ok~ 1F646 200D 2642 FE0F|
  man_getting_haircut~ 1F487 200D 2642 FE0F|man_getting_massage~ 1F486 200D 2642 FE0F|
  man_golfing~ 1F3CC FE0F 200D 2642 FE0F|man_guard~ 1F482 200D 2642 FE0F|
  man_health_worker~ 1F468 200D 2695 FE0F|man_in_business_suit_levitating 1F574|
  man_in_lotus_position~ 1F9D8 200D 2642 FE0F|man_in_manual_wheelchair 1F468 200D 1F9BD|
  man_in_motorized_wheelchair 1F468 200D 1F9BC|man_in_steamy_room~ 1F9D6 200D 2642 FE0F|
  man_in_suit_levitating~ 1F574|man_in_tuxedo~ 1F935|man_judge~ 1F468 200D 2696 FE0F|
  man_juggling~ 1F939 200D 2642 FE0F|man_lifting_weights~ 1F3CB FE0F 200D 2642 FE0F|
  man_mage~ 1F9D9 200D 2642 FE0F|man_mechanic~ 1F468 200D 1F527|
  man_mountain_biking~ 1F6B5 200D 2642 FE0F|man_office_worker~ 1F468 200D 1F4BC|
  man_pilot~ 1F468 200D 2708 FE0F|man_playing_handball~ 1F93E 200D 2642 FE0F|
  man_playing_water_polo~ 1F93D 200D 2642 FE0F|man_police_officer~ 1F46E 200D 2642 FE0F|
  man_pouting~ 1F64E 200D 2642 FE0F|man_raising_hand~ 1F64B 200D 2642 FE0F|
  man_rowing_boat~ 1F6A3 200D 2642 FE0F|man_running~ 1F3C3 200D 2642 FE0F|
  man_scientist~ 1F468 200D 1F52C|man_shrugging~ 1F937 200D 2642 FE0F|man_singer~ 1F468 200D 1F3A4|
  man_student~ 1F468 200D 1F393|man_surfing~ 1F3C4 200D 2642 FE0F|
  man_swimming~ 1F3CA 200D 2642 FE0F|man_teacher~ 1F468 200D 1F3EB|
  man_technologist~ 1F468 200D 1F4BB|man_tipping_hand~ 1F481 200D 2642 FE0F|
  man_vampire~ 1F9DB 200D 2642 FE0F|man_walking~ 1F6B6 200D 2642 FE0F|
  man_wearing_turban~ 1F473 200D 2642 FE0F|man_with_chinese_cap~ 1F472|man_with_gua_pi_mao 1F472|
  man_with_probing_cane 1F468 200D 1F9AF|man_with_turban 1F473|man_zombie 1F9DF 200D 2642 FE0F|
  mango 1F96D|mans_shoe 1F45E|mantelpiece_clock 1F570|manual_wheelchair 1F9BD|man’s_shoe 1F45E|
  map_of_japan 1F5FE|maple_leaf 1F341|marshall_islands 1F1F2 1F1ED|martial_arts_uniform 1F94B|
  martinique 1F1F2 1F1F6|mask 1F637|massage 1F486|mate 1F9C9|mauritania 1F1F2 1F1F7|
  mauritius 1F1F2 1F1FA|mayotte 1F1FE 1F1F9|meat_on_bone 1F356|mechanical_arm 1F9BE|
  mechanical_leg 1F9BF|medical_symbol 2695|medium_dark_skin_tone 1F3FE|medium_light_skin_tone 1F3FC|
  medium_skin_tone 1F3FD|mega 1F4E3|megaphone 1F4E3|melon 1F348|memo 1F4DD|
  men_with_bunny_ears 1F46F 200D 2642 FE0F|men_wrestling 1F93C 200D 2642 FE0F|menorah 1F54E|
  menorah_with_nine_branches 1F54E|mens 1F6B9|men’s_room 1F6B9|mermaid~ 1F9DC 200D 2640 FE0F|
  merman~ 1F9DC 200D 2642 FE0F|merperson~ 1F9DC|metro 1F687|mexico 1F1F2 1F1FD|microbe 1F9A0|
  micronesia 1F1EB 1F1F2|microphone 1F3A4|microscope 1F52C|middle_finger~ 1F595|
  military_medal 1F396|milky_way 1F30C|minibus 1F690|minidisc 1F4BD|moai 1F5FF|mobile_phone 1F4F1|
  mobile_phone_off 1F4F4|mobile_phone_with_arrow 1F4F2|moldova 1F1F2 1F1E9|monaco 1F1F2 1F1E8|
  money-mouth_face 1F911|money__mouth_face 1F911|money_bag 1F4B0|money_with_wings 1F4B8|
  moneybag 1F4B0|mongolia 1F1F2 1F1F3|monkey 1F412|monkey_face 1F435|monorail 1F69D|
  montenegro 1F1F2 1F1EA|montserrat 1F1F2 1F1F8|moon 1F314|moon_cake 1F96E|
  moon_viewing_ceremony 1F391|morocco 1F1F2 1F1E6|mortar_board 1F393|mosque 1F54C|mosquito 1F99F|
  motor_boat 1F6E5|motor_scooter 1F6F5|motorcycle 1F3CD|motorized_wheelchair 1F9BC|motorway 1F6E3|
  mount_fuji 1F5FB|mountain 26F0|mountain_bicyclist 1F6B5|mountain_cableway 1F6A0|
  mountain_railway 1F69E|mouse 1F42D|mouse2 1F401|mouse_face 1F42D|mouth 1F444|movie_camera 1F3A5|
  moyai 1F5FF|mozambique 1F1F2 1F1FF|mrs._claus~ 1F936|muscle 1F4AA|mushroom 1F344|
  musical_keyboard 1F3B9|musical_note 1F3B5|musical_notes 1F3B6|musical_score 1F3BC|mute 1F507|
  muted_speaker 1F507|myanmar_(burma) 1F1F2 1F1F2|nail_care 1F485|nail_polish~ 1F485|
  name_badge 1F4DB|namibia 1F1F3 1F1E6|national_park 1F3DE|nauru 1F1F3 1F1F7|nauseated_face 1F922|
  nazar_amulet 1F9FF|necktie 1F454|negative_squared_cross_mark 274E|nepal 1F1F3 1F1F5|
  nerd_face 1F913|netherlands 1F1F3 1F1F1|neutral_face 1F610|new 1F195|new_button 1F195|
  new_caledonia 1F1F3 1F1E8|new_moon 1F311|new_moon_face 1F31A|new_moon_with_face 1F31A|
  new_zealand 1F1F3 1F1FF|newspaper 1F4F0|next_track_button 23ED|ng 1F196|ng_button 1F196|
  nicaragua 1F1F3 1F1EE|niger 1F1F3 1F1EA|nigeria 1F1F3 1F1EC|night_with_stars 1F303|
  nine 39 FE0F 20E3|nine-thirty 1F564|nine_o’clock 1F558|niue 1F1F3 1F1FA|no_bell 1F515|
  no_bicycles 1F6B3|no_entry 26D4|no_entry_sign 1F6AB|no_good 1F645|no_littering 1F6AF|
  no_mobile_phones 1F4F5|no_mouth 1F636|no_one_under_eighteen 1F51E|no_pedestrians 1F6B7|
  no_smoking 1F6AD|non-potable_water 1F6B1|non__potable_water 1F6B1|norfolk_island 1F1F3 1F1EB|
  north_korea 1F1F0 1F1F5|northern_mariana_islands 1F1F2 1F1F5|norway 1F1F3 1F1F4|nose~ 1F443|
  notebook 1F4D3|notebook_with_decorative_cover 1F4D4|notes 1F3B6|nut_and_bolt 1F529|o 2B55|
  o2 1F17E|o_button_(blood_type) 1F17E|ocean 1F30A|octopus 1F419|oden 1F362|office 1F3E2|
  office_building 1F3E2|ogre 1F479|oil_drum 1F6E2|ok 1F197|ok_button 1F197|ok_hand~ 1F44C|
  ok_woman 1F646|old_key 1F5DD|old_man~ 1F474|old_woman~ 1F475|older_adult~ 1F9D3|older_man 1F474|
  older_woman 1F475|om 1F549|om_symbol 1F549|oman 1F1F4 1F1F2|on 1F51B|on!_arrow 1F51B|
  oncoming_automobile 1F698|oncoming_bus 1F68D|oncoming_fist~ 1F44A|oncoming_police_car 1F694|
  oncoming_taxi 1F696|one 31 FE0F 20E3|one-piece_swimsuit 1FA71|one-thirty 1F55C|one_o’clock 1F550|
  onion 1F9C5|open_book 1F4D6|open_file_folder 1F4C2|open_hands~ 1F450|
  open_mailbox_with_lowered_flag 1F4ED|open_mailbox_with_raised_flag 1F4EC|open_mouth 1F62E|
  ophiuchus 26CE|optical_disk 1F4BF|orange_book 1F4D9|orange_circle 1F7E0|orange_heart 1F9E1|
  orange_square 1F7E7|orangutan 1F9A7|orthodox_cross 2626|otter 1F9A6|outbox_tray 1F4E4|owl 1F989|
  ox 1F402|oyster 1F9AA|p_button 1F17F|package 1F4E6|page_facing_up 1F4C4|page_with_curl 1F4C3|
  pager 1F4DF|paintbrush 1F58C|pakistan 1F1F5 1F1F0|palau 1F1F5 1F1FC|
  palestinian_territories 1F1F5 1F1F8|palm_tree 1F334|palms_up_together~ 1F932|panama 1F1F5 1F1E6|
  pancakes 1F95E|panda_face 1F43C|paperclip 1F4CE|papua_new_guinea 1F1F5 1F1EC|paraguay 1F1F5 1F1FE|
  parking 1F17F|parrot 1F99C|part_alternation_mark 303D|partly_sunny 26C5|party_popper 1F389|
  partying_face 1F973|passenger_ship 1F6F3|passport_control 1F6C2|pause_button 23F8|
  paw_prints 1F43E|peace_symbol 262E|peach 1F351|peacock 1F99A|peanuts 1F95C|pear 1F350|pen 1F58A|
  pencil 1F4DD|pencil2 270F|penguin 1F427|pensive 1F614|pensive_face 1F614|
  people_holding_hands 1F9D1 200D 1F91D 200D 1F9D1|people_with_bunny_ears 1F46F|
  people_wrestling 1F93C|performing_arts 1F3AD|persevere 1F623|persevering_face 1F623|
  person_biking~ 1F6B4|person_bouncing_ball~ 26F9|person_bowing~ 1F647|person_cartwheeling~ 1F938|
  person_climbing~ 1F9D7|person_facepalming~ 1F926|person_fencing 1F93A|person_frowning~ 1F64D|
  person_gesturing_no~ 1F645|person_gesturing_ok~ 1F646|person_getting_haircut~ 1F487|
  person_getting_massage~ 1F486|person_golfing~ 1F3CC|person_in_bed~ 1F6CC|
  person_in_lotus_position~ 1F9D8|person_in_steamy_room~ 1F9D6|person_juggling~ 1F939|
  person_kneeling 1F9CE|person_lifting_weights~ 1F3CB|person_mountain_biking~ 1F6B5|
  person_playing_handball~ 1F93E|person_playing_water_polo~ 1F93D|person_pouting~ 1F64E|
  person_raising_hand~ 1F64B|person_rowing_boat~ 1F6A3|person_running~ 1F3C3|
  person_shrugging~ 1F937|person_standing 1F9CD|person_surfing~ 1F3C4|person_swimming~ 1F3CA|
  person_taking_bath~ 1F6C0|person_tipping_hand~ 1F481|person_walking~ 1F6B6|
  person_wearing_turban~ 1F473|person_with_ball 26F9|person_with_blond_hair 1F471|
  person_with_pouting_face 1F64E|peru 1F1F5 1F1EA|petri_dish 1F9EB|philippines 1F1F5 1F1ED|
  phone 260E|pick 26CF|pie 1F967|pig 1F437|pig2 1F416|pig_face 1F437|pig_nose 1F43D|
  pile_of_poo 1F4A9|pill 1F48A|pinching_hand 1F90F|pine_decoration 1F38D|pineapple 1F34D|
  ping_pong 1F3D3|pirate_flag 1F3F4 200D 2620 FE0F|pisces 2653|pistol 1F52B|
  pitcairn_islands 1F1F5 1F1F3|pizza 1F355|place_of_worship 1F6D0|play_button 25B6|
  play_or_pause_button 23EF|pleading_face 1F97A|point_down 1F447|point_left 1F448|point_right 1F449|
  point_up 261D|point_up_2 1F446|poland 1F1F5 1F1F1|police_car 1F693|police_car_light 1F6A8|
  police_officer~ 1F46E|poodle 1F429|pool_8_ball 1F3B1|poop 1F4A9|popcorn 1F37F|
  portugal 1F1F5 1F1F9|post_office 1F3E3|postal_horn 1F4EF|postbox 1F4EE|pot_of_food 1F372|
  potable_water 1F6B0|potato 1F954|pouch 1F45D|poultry_leg 1F357|pound 1F4B7|pound_banknote 1F4B7|
  pouting_cat 1F63E|pouting_cat_face 1F63E|pouting_face 1F621|pray 1F64F|prayer_beads 1F4FF|
  pregnant_woman~ 1F930|pretzel 1F968|prince~ 1F934|princess~ 1F478|printer 1F5A8|
  probing_cane 1F9AF|prohibited 1F6AB|puerto_rico 1F1F5 1F1F7|punch 1F44A|purple_circle 1F7E3|
  purple_heart 1F49C|purple_square 1F7EA|purse 1F45B|pushpin 1F4CC|put_litter_in_its_place 1F6AE"

end Archetype.Report.Picture
